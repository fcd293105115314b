import StreamGateway.Standing
import StreamGateway.OutputCycles
import StreamGateway.StaleMessages

/-!
# Requests that keep the standing

A request that succeeds starts or stops one stream, in memory and in its row. What it does to
the streams and to the rows is described apart, and both are the same change of the standing,
unless the request moves the outputs of its input along with it.
-/
namespace StreamGateway

open Prog

inductive StreamRequest
  | createInput (req : CreateInputRequest)
  | createOutput (req : CreateOutputRequest)
  | startInput (inputId : Int)
  | stopInput (inputId : Int)
  | startOutput (outputId : Int)
  | stopOutput (outputId : Int)

def StreamRequest.respond (env : Env) : StreamRequest → Prog World Response
  | createInput req => StreamGateway.createInput env req
  | createOutput req => StreamGateway.createOutput env req
  | startInput inputId => startInputEndpoint env inputId
  | stopInput inputId => stopInputEndpoint env inputId
  | startOutput outputId => startOutputEndpoint env outputId
  | stopOutput outputId => stopOutputEndpoint env outputId

def StreamRequest.operation : StreamRequest → Operation
  | createInput req => .createInput req
  | createOutput req => .createOutput req
  | startInput inputId => .startInputEndpoint inputId
  | stopInput inputId => .stopInputEndpoint inputId
  | startOutput outputId => .startOutputEndpoint outputId
  | stopOutput outputId => .stopOutputEndpoint outputId

theorem StreamRequest.prog_operation (env : Env) (req : StreamRequest) :
    req.operation.prog env = (req.respond env).ignore := by
  cases req <;> rfl

def Response.Succeeds (response : Response) : Prop := response.status < 300

instance (response : Response) : Decidable response.Succeeds :=
  inferInstanceAs (Decidable (_ < _))

/-- The queries that write the rows of new streams and the statuses succeed. -/
def Env.WritesSucceed (env : Env) : Prop :=
  ∀ q ∈ [Query.saveInput, .saveOutput, .updateInputStatus, .updateOutputStatus],
    env.queryError q = none

/-! ## Creating an input -/

theorem InputInfo.standing_running {info : InputInfo} (h : info.status ≠ .stopped) :
    info.standing = .running := if_neg h

/-- The row that `create_input` writes. -/
def CreateInputRequest.row (req : CreateInputRequest) (name : Option String) : InputRow :=
  ⟨name, inputKindString req, .obj req.toFields, "listening"⟩

theorem saveInputToDb_ok {env : Env} {name : Option String} {req : CreateInputRequest}
    {w : World} {id : Int} (h : (saveInputToDb env name req w).1 = .ok id) :
    id = w.db.inputs.lastId + 1 ∧ (saveInputToDb env name req w).2 =
      { w with db := { w.db with inputs := w.db.inputs.insert (req.row name) } } := by
  unfold saveInputToDb query at h ⊢
  split at h
  · exact absurd h (by simp)
  · exact ⟨(Except.ok.inj h).symm, rfl⟩

/-- A program filter is spawned only when its source is in memory. -/
theorem spawnInput_source {req : CreateInputRequest} {id i : Int} {name : Option String}
    {w w' : World} {held : Bool} {info : InputInfo}
    (h : (spawnInput req id name).alone false w = some (.ok info, held, w'))
    (hi : req.source = some i) : i ∈ w.streams := by
  cases req with
  | udp | srt => exact absurd hi (by simp [CreateInputRequest.source])
  | spts sourceInputId programNumber fillWithNulls reqName =>
    obtain rfl := Option.some.inj hi
    have hok := (Prod.mk.inj (Option.some.inj h)).1
    unfold spawnSptsSection at hok
    split at hok
    · exact absurd hok (by simp)
    · rename_i source hsource
      exact HashMap.mem_iff.mpr ⟨_, hsource⟩

theorem alone_installFailedInput (env : Env) (id : Int) (name : Option String)
    (finalReq : CreateInputRequest) (e : HttpError) (w : World) :
    ∃ w', (installFailedInput env id name finalReq e).alone false w =
      some (Response.internalServerError ("Failed to start input: " ++ e.message), false, w') :=
  ⟨_, rfl⟩

/-- A creation that goes through has stored the request, maybe with a port that was assigned,
and the entry is in memory. -/
theorem createInput_created {env : Env} {req : CreateInputRequest} {w w' : World} {held : Bool}
    {response : Response} (h : (createInput env req).alone false w = some (response, held, w'))
    (hs : response.status < 400) :
    ∃ stored name info, (stored = req ∨ ∃ port, stored = req.withAssignedPort port) ∧
      info.Started (w.db.inputs.lastId + 1) ∧
      (∀ i, stored.source = some i → i ∈ w.streams) ∧
      w'.db = { w.db with inputs := w.db.inputs.insert (stored.row name) } ∧
      w'.streams = w.streams.insert (w.db.inputs.lastId + 1) info := by
  have hfailed : ∀ {r : Response}, 400 ≤ r.status → r ≠ response := by
    rintro r hr rfl
    omega
  unfold createInput at h
  split at h
  · obtain ⟨rfl, _⟩ := alone_ret_eq_some.mp h
    exact absurd rfl (hfailed (by simp [Response.badRequest]))
  obtain ⟨r, _, _, hassign, h⟩ := alone_bind_eq_some.mp h
  obtain ⟨rfl, hw, hassigned⟩ := (reads_assignInputPort env req).eq hassign
  rw [hw] at h
  rcases r with r | ⟨stored, assignedPort⟩
  · obtain ⟨rfl, _⟩ := alone_ret_eq_some.mp h
    exact absurd rfl (hfailed (hassigned.refused _ rfl))
  dsimp only at h
  rw [alone_atomic_bind] at h
  split at h
  · obtain ⟨rfl, _⟩ := alone_ret_eq_some.mp h
    exact absurd rfl (hfailed (by simp [databaseError, Response.internalServerError]))
  rename_i id hid
  obtain ⟨rfl, hw₁⟩ := saveInputToDb_ok hid
  rw [hw₁] at h
  obtain ⟨r, _, w₂, hspawn, h⟩ := alone_bind_eq_some.mp h
  obtain ⟨rfl, hdb, hstreams, hstarted⟩ := (spawnInput_started stored _ _ _).eq hspawn
  cases r with
  | error e =>
    obtain ⟨w₃, hw₃⟩ := alone_installFailedInput env (w.db.inputs.lastId + 1) (inputName req)
      stored e w₂
    obtain ⟨rfl, _⟩ := Prod.mk.inj (Option.some.inj (hw₃.symm.trans h))
    exact absurd rfl (hfailed (by simp [Response.internalServerError]))
  | ok info =>
    have hinfo := hstarted info rfl
    obtain ⟨_, _, rfl⟩ := alone_ret_eq_some.mp h
    have hfound : ∀ i, stored.source = some i → i ∈ w.streams := by
      intro i hi
      have hmem := spawnInput_source hspawn hi
      exact hmem
    refine ⟨stored, inputName req, info, hassigned.request _ _ rfl, hinfo, hfound, hdb, ?_⟩
    show w₂.streams.insert info.id info = _
    rw [hinfo.id_eq, hstreams]

/-! ## Starting and stopping an input -/

/-- The rows and the standing of the streams stay as they are. -/
structure SameStanding (w w' : World) : Prop where
  db : w'.db = w.db
  standings : w'.standings = w.standings

theorem SameStanding.refl (w : World) : SameStanding w w := ⟨rfl, rfl⟩

theorem SameStanding.trans {w w' w'' : World} (h : SameStanding w w')
    (h' : SameStanding w' w'') : SameStanding w w'' :=
  ⟨h'.db.trans h.db, h'.standings.trans h.standings⟩

theorem sameStanding_startAnalysis {env : Env} {i : Int} {analysisType : AnalysisType}
    {timeoutMinutes : Option UInt64} {w w' : World} {held : Bool} {r : Except String ℕ}
    (h : (startAnalysis env i analysisType timeoutMinutes).alone false w = some (r, held, w')) :
    held = false ∧ SameStanding w w' := by
  rcases alone_startAnalysis env i analysisType timeoutMinutes w with
    ⟨⟨e, ha⟩, _⟩ | ⟨info, timeout, a, w₁, hi, _, _, hlaunch, hs, ha⟩
  · obtain ⟨_, rfl, rfl⟩ : .error e = r ∧ false = held ∧ (newAnalysisId w).2 = w' := by
      simpa [ha] using h
    exact ⟨rfl, rfl, rfl⟩
  · obtain ⟨_, rfl, rfl⟩ : .ok a.id = r ∧ false = held ∧ (insertAnalysis i a w₁).2 = w' := by
      simpa [ha] using h
    rw [insertAnalysis_found (hs ▸ hi)]
    obtain ⟨rfl, rfl⟩ := Prod.mk.inj hlaunch
    exact ⟨rfl, rfl, standings_same hi rfl rfl fun _ => rfl⟩

theorem sameStanding_restartPaused {env : Env} {i : Int} {paused : List AnalysisType} {w w' : World}
    {held : Bool} (h : (restartPaused env i paused).alone false w = some ((), held, w')) :
    SameStanding w w' := by
  induction paused generalizing w with
  | nil =>
    obtain ⟨_, _, rfl⟩ := alone_ret_eq_some.mp h
    exact .refl w
  | cons analysisType rest ih =>
    obtain ⟨_, _, _, hstart, hrest⟩ := alone_bind_eq_some.mp h
    obtain ⟨rfl, hsame⟩ := sameStanding_startAnalysis hstart
    exact hsame.trans (ih hrest)

/-- An input without stopped outputs starts no output. -/
theorem restartStopped_none (env : Env) {info : InputInfo} (rt : Runtime)
    (h : info.stoppedOutputs = ∅) (k : Int) :
    (restartStopped env info rt).1.outputStanding k = info.outputStanding k := by
  unfold restartStopped
  rw [h]
  show InputInfo.outputStanding { info with stoppedOutputs := ∅ } k = info.outputStanding k
  simp only [InputInfo.outputStanding, h]

theorem restartStopped_standing (env : Env) (info : InputInfo) (rt : Runtime) :
    (restartStopped env info rt).1.standing = info.standing := by
  rw [restartStopped_frame]
  rfl

theorem recreateTask_running {plan : StartPlan} (h : plan.config.isSpts = false)
    (info : InputInfo) (rt : Runtime) : (recreateTask plan info rt).1.standing = .running := by
  unfold recreateTask
  cases hc : plan.config with
  | udp => rfl
  | srt name config => cases config <;> rfl
  | spts =>
    rw [hc] at h
    exact absurd h (by simp [CreateInputRequest.isSpts])

theorem restartSection_standings (env : Env) {plan : StartPlan} {w : World} {info : InputInfo}
    (hi : w.streams.lookup plan.inputId = some info) (hnone : info.stoppedOutputs = ∅)
    (hspts : plan.config.isSpts = false) :
    (restartSection env plan w).2.db = w.db ∧
      (restartSection env plan w).2.standings = w.standings.setInput plan.inputId .running := by
  obtain ⟨htasks, hstopped⟩ := recreateTask_outputs plan info w.rt
  unfold restartSection
  rw [hi]
  refine ⟨rfl, standings_setInput hi rfl ?_ fun k => ?_⟩
  · exact (restartStopped_standing env _ _).trans (recreateTask_running hspts info w.rt)
  · refine (restartStopped_none env _ (hstopped.trans hnone) k).trans ?_
    simp only [InputInfo.outputStanding, htasks, hstopped]

theorem sptsInstallSection_standings (env : Env) {i : Int} (new : InputInfo) {w : World}
    {info : InputInfo} (hi : w.streams.lookup i = some info) (hnone : info.stoppedOutputs = ∅) :
    (sptsInstallSection env i new w).2.db = w.db ∧
      (sptsInstallSection env i new w).2.standings = w.standings.setInput i .running := by
  unfold sptsInstallSection
  rw [hi]
  refine ⟨rfl, standings_setInput hi rfl ?_ fun k => ?_⟩
  · exact (restartStopped_standing env _ _).trans rfl
  · refine (restartStopped_none env _ ?_ k).trans ?_
    · exact hnone
    · rfl

/-- An input without stopped outputs is started. -/
theorem startInput_standings {env : Env} {i : Int} {w w' : World} {held : Bool}
    (hids : w.IdsMatch)
    (hnone : ∀ info, w.streams.lookup i = some info → info.stoppedOutputs = ∅)
    (h : (startInput env i).alone false w = some (.ok (), held, w')) :
    held = false ∧ i ∈ w.streams ∧ w'.db = w.db ∧
      w'.standings = w.standings.setInput i .running := by
  obtain rfl := alone_startInput_held h
  rcases alone_startInput env i w with ⟨e, ha, _⟩ | ⟨info, stateTx, hi, _, ha⟩
  · rw [ha] at h
    exact absurd h (by simp)
  have hmem : i ∈ w.streams := HashMap.mem_iff.mpr ⟨_, hi⟩
  refine ⟨rfl, hmem, ?_⟩
  obtain rfl : info.id = i := hids i info hi
  have hbase : ∀ plan : StartPlan, plan.inputId = info.id → plan.config.isSpts = false →
      (startBase env plan).alone false w = some (.ok (), false, w') →
      w'.db = w.db ∧ w'.standings = w.standings.setInput info.id .running := by
    intro plan hplan hspts hr
    rw [← hplan] at hi ⊢
    have hsection := restartSection_standings env hi (hnone info (hplan ▸ hi)) hspts
    rw [alone_startBase] at hr
    split at hr
    · exact absurd hr (by simp)
    rename_i paused w'' hw
    rw [hw] at hsection
    split at hr
    · obtain rfl : w'' = w' := by simpa using hr
      exact hsection
    · exact absurd hr (by simp)
  rw [ha] at h
  cases hc : info.config with
  | udp =>
    exact hbase ⟨info.config, info.id, info.name, stateTx⟩ rfl (by rw [hc]; rfl)
      (by rwa [hc] at h ⊢)
  | srt =>
    exact hbase ⟨info.config, info.id, info.name, stateTx⟩ rfl (by rw [hc]; rfl)
      (by rwa [hc] at h ⊢)
  | spts sourceInputId programNumber fillWithNulls name =>
    rw [hc] at h
    rcases alone_startSpts h with ⟨⟨e, he⟩, _⟩ | ⟨_, new, w₁, paused, held', hs, hdb, _, hp⟩
    · exact absurd he (by simp)
    have hi₁ : w₁.streams.lookup info.id = some info := by rw [hs, hi]
    obtain ⟨hdb', hset⟩ := sptsInstallSection_standings env new hi₁ (hnone info hi)
    have hsame := sameStanding_restartPaused hp
    refine ⟨hsame.db.trans (hdb'.trans hdb), hsame.standings.trans (hset.trans ?_)⟩
    rw [standings_of_streams hs]

/-- An input without running outputs is stopped. -/
theorem stopInputSection_standings {i : Int} {w : World}
    (hnone : ∀ info, w.streams.lookup i = some info → info.outputTasks = ∅)
    (h : (stopInputSection i w).1 = .ok ()) :
    i ∈ w.streams ∧ (stopInputSection i w).2.db = w.db ∧
      (stopInputSection i w).2.standings = w.standings.setInput i .stopped := by
  unfold stopInputSection at h ⊢
  cases hi : w.streams.lookup i with
  | none =>
    rw [hi] at h
    exact absurd h (by simp)
  | some info =>
    rw [hi] at h
    dsimp only at h ⊢
    split at h
    · exact absurd h (by simp)
    rename_i hstatus
    rw [if_neg hstatus]
    have htasks := hnone info hi
    refine ⟨HashMap.mem_iff.mpr ⟨_, hi⟩, rfl, ?_⟩
    refine standings_setInput hi rfl rfl fun k => ?_
    simp only [stopInputInfo, htasks]
    show InputInfo.outputStanding { info with
      outputTasks := ∅
      stoppedOutputs := info.stoppedOutputs.extend ∅ } k = _
    simp [InputInfo.outputStanding, htasks, HashMap.extend]

/-! ## Outputs -/

/-- The standing of an input is that of its entry. -/
theorem World.standings_inputs {w : World} {i : Int} {info : InputInfo}
    (h : w.streams.lookup i = some info) : w.standings.inputs i = some info.standing := by
  simp [World.standings, h]

theorem installOutputSection_standings {env : Env} {req : CreateOutputRequest} {i k : Int}
    {w w' : World} {output : OutputInfo} (hids : w.IdsMatch)
    (h : installOutputSection env req i k (outputDestination req).1 w = (.ok output, w')) :
    i ∈ w.streams ∧ w'.db = w.db ∧ w'.standings = w.standings.setOutput i k .running := by
  unfold installOutputSection at h
  cases hi : w.streams.lookup i with
  | none => simp [hi] at h
  | some input =>
  rw [hi] at h
  dsimp only at h
  cases hspawn : spawnOutput env req input i k (outputDestination req).1 w.rt with
  | error e => simp [hspawn] at h
  | ok r =>
  obtain ⟨output', rt'⟩ := r
  obtain ⟨j, spec, hj, hl⟩ := spawnOutput_launch hspawn
  have hid : output'.inputId = i := by
    rw [hids i input hi, or_self] at hj
    rw [hl.inputId_eq, hj]
  rw [hspawn] at h
  dsimp only at h
  rw [hid, hi] at h
  obtain ⟨_, rfl⟩ := Prod.mk.inj h
  refine ⟨HashMap.mem_iff.mpr ⟨_, hi⟩, rfl, standings_setOutput hi rfl rfl fun m => ?_⟩
  rw [hl.outputId_eq]
  exact outputStanding_insertOutput output' m

/-- An output that is started was stopped, and its input runs. -/
theorem startOutputSection_standings {env : Env} {i k : Int} {w : World}
    (h : (startOutputSection env i k w).1 = .ok ()) :
    w.standings.inputs i = some .running ∧ (startOutputSection env i k w).2.db = w.db ∧
      (startOutputSection env i k w).2.standings = w.standings.setOutput i k .running ∧
      ∃ info output, (startOutputSection env i k w).2.streams.lookup i = some info ∧
        info.outputTasks.lookup k = some output ∧ output.status.isActive = true := by
  unfold startOutputSection at h ⊢
  cases hi : w.streams.lookup i with
  | none =>
    rw [hi] at h
    exact absurd h (by simp)
  | some info =>
  rw [hi] at h
  dsimp only at h ⊢
  split at h
  · exact absurd h (by simp)
  rename_i hstatus
  rw [if_neg hstatus]
  cases hk : info.stoppedOutputs.lookup k with
  | none =>
    rw [hk] at h
    dsimp only at h
    split at h <;> exact absurd h (by simp)
  | some config =>
  rw [hk] at h
  dsimp only at h ⊢
  split at h
  · rename_i info' rt' hstart
    obtain ⟨spec, output, hl, rfl⟩ := startOutputInternal_ok hstart
    have hx : info.standing = .running := InputInfo.standing_running hstatus
    refine ⟨by rw [World.standings_inputs hi, hx], rfl, ?_, ?_⟩
    · exact standings_setOutput hi rfl rfl (@outputStanding_startOutput info k output)
    · exact ⟨_, output, AList.lookup_insert _, AList.lookup_insert _, hl.active⟩
  · exact absurd h (by simp)

theorem stopOutputSection_standings {i k : Int} {w : World}
    (h : (stopOutputSection i k w).1 = .ok ()) :
    (stopOutputSection i k w).2.db = w.db ∧
      (stopOutputSection i k w).2.standings = w.standings.setOutput i k .stopped := by
  unfold stopOutputSection at h ⊢
  cases hi : w.streams.lookup i with
  | none =>
    rw [hi] at h
    exact absurd h (by simp)
  | some info =>
  rw [hi] at h
  dsimp only at h ⊢
  cases hk : info.outputTasks.lookup k with
  | none =>
    rw [hk] at h
    dsimp only at h
    split at h <;> exact absurd h (by simp)
  | some output =>
    exact ⟨rfl, standings_setOutput hi rfl rfl (outputStanding_stopOutput output.config)⟩

/-! ## The rows -/

/-- The rows stay loadable, and their standing changes. -/
theorem updateInputStatusInDb_standings {env : Env} {i : Int} {status : String} {w : World}
    (hquery : env.queryError .updateInputStatus = none) (hrow : (w.db.inputs.find i).isSome = true)
    (hdb : w.db.Recoverable) :
    (updateInputStatusInDb env i status w).2.streams = w.streams ∧
      (updateInputStatusInDb env i status w).2.db.standings =
        w.db.standings.setInput i (.ofText status) ∧
      (updateInputStatusInDb env i status w).2.db.Recoverable := by
  unfold updateInputStatusInDb query
  rw [hquery]
  exact ⟨rfl, standings_inputStatus status hrow, recoverable_inputStatus hdb i status⟩

theorem updateOutputStatusInDb_standings {env : Env} {k : Int} {status : String} {w : World}
    {row : OutputRow} (hquery : env.queryError .updateOutputStatus = none)
    (hrow : w.db.outputs.find k = some row) (hdb : w.db.Recoverable) :
    (updateOutputStatusInDb env k status w).2.streams = w.streams ∧
      (updateOutputStatusInDb env k status w).2.db.standings =
        w.db.standings.setOutput row.inputId k (.ofText status) ∧
      (updateOutputStatusInDb env k status w).2.db.Recoverable := by
  unfold updateOutputStatusInDb query
  rw [hquery]
  exact ⟨rfl, standings_outputStatus status hrow, recoverable_outputStatus hdb k status⟩

/-- Only a stopped stream has the status that is written for one. -/
theorem Standing.ofText_status (status : StreamStatus) :
    Standing.ofText (toString status) = if status = .stopped then .stopped else .running := by
  cases status <;> rfl

/-! ## One request -/

/-- Memory and rows agree, the rows can be loaded, and a stopped input runs no output. -/
structure World.Kept (w : World) : Prop where
  idsMatch : w.IdsMatch
  recoverable : w.db.Recoverable
  agree : w.standings = w.db.standings
  idle : w.standings.Idle

/-- The same change in memory and in the rows. -/
def BothChange (w w' : World) : Prop :=
  ∃ s, w.standings.Change s ∧ w'.standings = s ∧ w'.db.standings = s ∧ w'.db.Recoverable

theorem BothChange.kept {w w' : World} (h : BothChange w w') (hw : w.Kept)
    (hids : w'.IdsMatch) : w'.Kept := by
  obtain ⟨s, hchange, hmem, hrows, hrecover⟩ := h
  refine ⟨hids, hrecover, hmem.trans hrows.symm, ?_⟩
  rw [hmem]
  exact hchange.idle hw.idle

theorem World.Kept.input_iff {w : World} (h : w.Kept) (i : Int) :
    i ∈ w.streams ↔ (w.db.inputs.find i).isSome = true := by
  have hagree := congrArg (fun s : Standings => (s.inputs i).isSome) h.agree
  simp only [World.standings, Database.standings, Option.isSome_map] at hagree
  rw [← AList.lookup_isSome, hagree]

/-- The host of a UDP output is written as an address. -/
def CreateOutputRequest.HasAddress (req : CreateOutputRequest) : Prop :=
  match req with
  | .udp .. => ∀ port,
    (parseSocketAddr (hostPort (req.getRemoteHost.getD "127.0.0.1") port)).isSome = true
  | .srt .. => True

/-- The load can tell what the request does from the row that it writes: no output is started
or stopped along with its input, none is created under a stopped input, a UDP output is
created with an address, and a program filter is created on an input that is none. -/
def StreamRequest.KeepsStanding (w : World) : StreamRequest → Prop
  | createInput req => ∀ i row, req.source = some i → w.db.inputs.find i = some row →
    row.kind ≠ "spts"
  | createOutput req => req.HasAddress ∧
    ∀ info, w.streams.lookup req.inputId = some info → info.status ≠ .stopped
  | startInput i => ∀ info, w.streams.lookup i = some info → info.stoppedOutputs = ∅
  | stopInput i => ∀ info, w.streams.lookup i = some info → info.outputTasks = ∅
  | startOutput _ => True
  | stopOutput _ => True

theorem CreateInputRequest.withAssignedPort_source (req : CreateInputRequest) (port : UInt16) :
    (req.withAssignedPort port).source = req.source := by
  cases req with
  | srt name config => cases config <;> rfl
  | udp | spts => rfl

theorem bothChange_createInput {env : Env} {req : CreateInputRequest} {w w' : World}
    {held : Bool} {response : Response} (hw : w.Kept)
    (hkeeps : StreamRequest.KeepsStanding w (.createInput req))
    (h : (createInput env req).alone false w = some (response, held, w'))
    (hs : response.Succeeds) : BothChange w w' := by
  unfold Response.Succeeds at hs
  obtain ⟨stored, name, info, hstored, hinfo, hfound, hdb, hstreams⟩ :=
    createInput_created h (by omega)
  have hsource : stored.source = req.source := by
    rcases hstored with rfl | ⟨port, rfl⟩
    · rfl
    · exact req.withAssignedPort_source port
  have hnew : w.streams.lookup (w.db.inputs.lastId + 1) = none := by
    rw [AList.lookup_eq_none, hw.input_iff, Table.find_lastId]
    simp
  refine ⟨w.standings.setInput (w.db.inputs.lastId + 1) .running, .startInput _, ?_, ?_, ?_⟩
  · exact standings_newInput hnew hstreams (InputInfo.standing_running hinfo.running) hinfo.bare
  · rw [hdb, standings_insertInput, hw.agree]
    rfl
  · rw [hdb]
    refine recoverable_insertInput hw.recoverable ⟨stored, rfl, rfl, fun i hi => ?_⟩
    obtain ⟨row, hrow⟩ := Option.isSome_iff_exists.mp ((hw.input_iff i).mp (hfound i hi))
    exact ⟨row, Table.find_eq_some.mp hrow, hkeeps i row (hsource ▸ hi) hrow⟩

theorem CreateOutputRequest.HasAddress.destination {req stored : CreateOutputRequest}
    (h : req.HasAddress) (hstored : stored = req ∨ ∃ port, stored = req.withAssignedPort port)
    (hkind : outputRowKind stored = "udp") :
    (parseSocketAddr (outputDestination stored).1).isSome = true := by
  cases req with
  | udp =>
    rcases hstored with rfl | ⟨port, rfl⟩
    · exact h _
    · exact h _
  | srt inputId name config =>
    have hne : outputRowKind stored ≠ "udp" := by
      rcases hstored with rfl | ⟨port, rfl⟩ <;> cases config <;>
        simp [CreateOutputRequest.withAssignedPort, outputRowKind]
    exact absurd hkind hne

theorem CreateOutputRequest.row_loadable (req : CreateOutputRequest) (inputId : Int) :
    (req.row inputId).Loadable := by
  obtain ⟨written, h⟩ := newOutputRow_loadable req
  exact ⟨written, h.kind, h.configJson, h.listenPort⟩

theorem bothChange_createOutput {env : Env} {req : CreateOutputRequest} {w w' : World}
    {held : Bool} {response : Response} (hw : w.Kept)
    (hkeeps : StreamRequest.KeepsStanding w (.createOutput req))
    (h : (createOutput env req).alone false w = some (response, held, w'))
    (hs : response.Succeeds) : BothChange w w' := by
  unfold Response.Succeeds at hs
  obtain ⟨stored, k, output, w₁, hstored, hsave, hinstall⟩ :=
    createOutput_goesThrough h (by omega)
  obtain ⟨rfl, hinput, hw₁⟩ := saveOutputToDb_ok (congrArg Prod.fst hsave)
  rw [hsave] at hw₁
  dsimp only at hw₁
  have hids₁ : w₁.IdsMatch := by
    rw [hw₁]
    exact hw.idsMatch
  obtain ⟨hi, hdb, hmem⟩ := installOutputSection_standings hids₁ hinstall
  have hstreams : w₁.streams = w.streams := by rw [hw₁]
  have hrunning : w.standings.inputs req.inputId ≠ some .stopped := by
    rw [hstreams] at hi
    obtain ⟨info, hinfo⟩ := HashMap.mem_iff.mp hi
    rw [World.standings_inputs hinfo, InputInfo.standing_running (hkeeps.2 info hinfo)]
    simp
  refine ⟨_, .startOutput req.inputId (w.db.outputs.lastId + 1) hrunning, ?_, ?_, ?_⟩
  · rw [hmem, standings_of_streams hstreams]
  · rw [hdb, hw₁, standings_insertOutput, hw.agree]
    rfl
  · rw [hdb, hw₁]
    obtain ⟨inputRow, hrow⟩ := Option.isSome_iff_exists.mp hinput
    refine recoverable_insertOutput hw.recoverable ⟨stored.row_loadable req.inputId, ?_, ?_⟩
    · exact ⟨inputRow, Table.find_eq_some.mp hrow⟩
    · exact hkeeps.1.destination hstored

/-- The text of the status of a running input is not that of a stopped one. -/
theorem inputStatusText_running {w : World} {i : Int}
    (h : w.standings.inputs i = some .running) :
    Standing.ofText (inputStatusText i w).1 = .running := by
  obtain ⟨info, hi, hrunning⟩ := Option.map_eq_some_iff.mp h
  unfold inputStatusText
  rw [hi]
  refine (Standing.ofText_status info.status).trans ?_
  exact hrunning

theorem bothChange_startInput {env : Env} {i : Int} {w w' : World} {held : Bool}
    {response : Response} (hw : w.Kept) (hwrites : env.WritesSucceed)
    (hkeeps : StreamRequest.KeepsStanding w (.startInput i))
    (h : (startInputEndpoint env i).alone false w = some (response, held, w'))
    (hs : response.Succeeds) : BothChange w w' := by
  unfold startInputEndpoint at h
  obtain ⟨r, _, w₁, hstart, h⟩ := alone_bind_eq_some.mp h
  cases r with
  | error e =>
    obtain ⟨rfl, _⟩ := alone_ret_eq_some.mp h
    exact absurd hs (by simp [Response.Succeeds, Response.internalServerError])
  | ok _ =>
  obtain ⟨rfl, hi, hdb, hmem⟩ := startInput_standings hw.idsMatch hkeeps hstart
  dsimp only at h
  rw [alone_locked_bind, alone_atomic_bind] at h
  obtain ⟨_, _, rfl⟩ := alone_ret_eq_some.mp h
  have hw₁ : w₁.db.Recoverable := hdb ▸ hw.recoverable
  have hrow : (w₁.db.inputs.find i).isSome = true := hdb ▸ (hw.input_iff i).mp hi
  have htext : Standing.ofText (inputStatusText i w₁).1 = .running := by
    refine inputStatusText_running ?_
    rw [hmem]
    simp [Standings.setInput]
  obtain ⟨hstreams, hrows, hrecover⟩ := updateInputStatusInDb_standings
    (hwrites .updateInputStatus (by simp)) hrow hw₁
  refine ⟨_, .startInput i, (standings_of_streams hstreams).trans hmem, hrows.trans ?_, hrecover⟩
  rw [htext, hdb, hw.agree]

theorem bothChange_stopInput {env : Env} {i : Int} {w w' : World} {held : Bool}
    {response : Response} (hw : w.Kept) (hwrites : env.WritesSucceed)
    (hkeeps : StreamRequest.KeepsStanding w (.stopInput i))
    (h : (stopInputEndpoint env i).alone false w = some (response, held, w'))
    (hs : response.Succeeds) : BothChange w w' := by
  unfold stopInputEndpoint stopInput at h
  rw [alone_locked_bind] at h
  split at h
  · obtain ⟨rfl, _⟩ := alone_ret_eq_some.mp h
    exact absurd hs (by simp [Response.Succeeds, Response.internalServerError])
  rename_i hstop
  obtain ⟨hi, hdb, hmem⟩ := stopInputSection_standings hkeeps hstop
  rw [alone_atomic_bind] at h
  obtain ⟨_, _, rfl⟩ := alone_ret_eq_some.mp h
  have hw₁ : (stopInputSection i w).2.db.Recoverable := hdb ▸ hw.recoverable
  have hrow : ((stopInputSection i w).2.db.inputs.find i).isSome = true :=
    hdb ▸ (hw.input_iff i).mp hi
  have hnone : ∀ k, w.standings.outputs i k ≠ some .running := by
    intro k
    obtain ⟨info, hinfo⟩ := HashMap.mem_iff.mp hi
    simp only [World.standings, hinfo, Option.bind_some, InputInfo.outputStanding,
      hkeeps info hinfo]
    split <;> simp_all
  obtain ⟨hstreams, hrows, hrecover⟩ := updateInputStatusInDb_standings
    (hwrites .updateInputStatus (by simp)) hrow hw₁
  refine ⟨_, .stopInput i hnone, (standings_of_streams hstreams).trans hmem, hrows.trans ?_,
    hrecover⟩
  rw [hdb, hw.agree]
  rfl

theorem getInputIdForOutput_ok {env : Env} {k i : Int} {w : World}
    (h : (getInputIdForOutput env k w).1 = .ok i) :
    (getInputIdForOutput env k w).2 = w ∧ ∃ row, w.db.outputs.find k = some row ∧
      row.inputId = i := by
  unfold getInputIdForOutput select query at h ⊢
  cases hq : env.queryError .getInputIdForOutput with
  | some e =>
    rw [hq] at h
    exact absurd h (by simp)
  | none =>
    rw [hq] at h
    cases hk : w.db.outputs.find k with
    | none =>
      simp only [hk] at h
      exact absurd h (by simp)
    | some row =>
      simp only [hk] at h ⊢
      exact ⟨trivial, row, rfl, Except.ok.inj h⟩

/-- The text of the status of an output that has just been started. -/
theorem outputStatusText_active {w : World} {i k : Int} {info : InputInfo} {output : OutputInfo}
    (hi : w.streams.lookup i = some info) (hk : info.outputTasks.lookup k = some output)
    (hactive : output.status.isActive = true) :
    Standing.ofText (outputStatusText i k w).1 = .running := by
  unfold outputStatusText
  rw [hi, Option.bind_some, hk]
  refine (Standing.ofText_status output.status).trans (if_neg ?_)
  intro hstopped
  simp [hstopped, StreamStatus.isActive] at hactive

theorem bothChange_startOutput {env : Env} {k : Int} {w w' : World} {held : Bool}
    {response : Response} (hw : w.Kept) (hwrites : env.WritesSucceed)
    (h : (startOutputEndpoint env k).alone false w = some (response, held, w'))
    (hs : response.Succeeds) : BothChange w w' := by
  unfold startOutputEndpoint at h
  rw [alone_atomic_bind] at h
  split at h
  · obtain ⟨rfl, _⟩ := alone_ret_eq_some.mp h
    exact absurd hs (by simp [Response.Succeeds, Response.internalServerError])
  rename_i i hfind
  obtain ⟨hworld, row, hrow, rfl⟩ := getInputIdForOutput_ok hfind
  rw [hworld, startOutput, alone_locked_bind] at h
  split at h
  · obtain ⟨rfl, _⟩ := alone_ret_eq_some.mp h
    exact absurd hs (by simp [Response.Succeeds, Response.internalServerError])
  rename_i hstart
  obtain ⟨hrunning, hdb, hmem, info, output, hi, hk, hactive⟩ :=
    startOutputSection_standings hstart
  rw [alone_locked_bind, alone_atomic_bind] at h
  obtain ⟨_, _, rfl⟩ := alone_ret_eq_some.mp h
  have htext := outputStatusText_active hi hk hactive
  obtain ⟨hstreams, hrows, hrecover⟩ :=
    @updateOutputStatusInDb_standings env k (outputStatusText row.inputId k
      (startOutputSection env row.inputId k w).2).1 (startOutputSection env row.inputId k w).2 row
      (hwrites .updateOutputStatus (by simp)) (hdb ▸ hrow) (hdb ▸ hw.recoverable)
  refine ⟨_, .startOutput row.inputId k ?_, (standings_of_streams hstreams).trans hmem,
    hrows.trans ?_, hrecover⟩
  · rw [hrunning]
    simp
  · rw [htext, hdb, hw.agree]

theorem bothChange_stopOutput {env : Env} {k : Int} {w w' : World} {held : Bool}
    {response : Response} (hw : w.Kept) (hwrites : env.WritesSucceed)
    (h : (stopOutputEndpoint env k).alone false w = some (response, held, w'))
    (hs : response.Succeeds) : BothChange w w' := by
  unfold stopOutputEndpoint at h
  rw [alone_atomic_bind] at h
  split at h
  · obtain ⟨rfl, _⟩ := alone_ret_eq_some.mp h
    exact absurd hs (by simp [Response.Succeeds, Response.internalServerError])
  rename_i i hfind
  obtain ⟨hworld, row, hrow, rfl⟩ := getInputIdForOutput_ok hfind
  rw [hworld, stopOutput, alone_locked_bind] at h
  split at h
  · obtain ⟨rfl, _⟩ := alone_ret_eq_some.mp h
    exact absurd hs (by simp [Response.Succeeds, Response.internalServerError])
  rename_i hstop
  obtain ⟨hdb, hmem⟩ := stopOutputSection_standings hstop
  rw [alone_atomic_bind] at h
  obtain ⟨_, _, rfl⟩ := alone_ret_eq_some.mp h
  obtain ⟨hstreams, hrows, hrecover⟩ :=
    @updateOutputStatusInDb_standings env k "stopped" (stopOutputSection row.inputId k w).2 row
      (hwrites .updateOutputStatus (by simp)) (hdb ▸ hrow) (hdb ▸ hw.recoverable)
  refine ⟨_, .stopOutput row.inputId k, (standings_of_streams hstreams).trans hmem,
    hrows.trans ?_, hrecover⟩
  rw [hdb, hw.agree]
  rfl

theorem bothChange_respond {env : Env} {req : StreamRequest} {w w' : World} {held : Bool}
    {response : Response} (hw : w.Kept) (hwrites : env.WritesSucceed)
    (hkeeps : req.KeepsStanding w)
    (h : (req.respond env).alone false w = some (response, held, w'))
    (hs : response.Succeeds) : BothChange w w' := by
  cases req with
  | createInput req => exact bothChange_createInput hw hkeeps h hs
  | createOutput req => exact bothChange_createOutput hw hkeeps h hs
  | startInput i => exact bothChange_startInput hw hwrites hkeeps h hs
  | stopInput i => exact bothChange_stopInput hw hwrites hkeeps h hs
  | startOutput k => exact bothChange_startOutput hw hwrites h hs
  | stopOutput k => exact bothChange_stopOutput hw hwrites h hs

theorem kept_respond {env : Env} {req : StreamRequest} {w w' : World} {held : Bool}
    {response : Response} (hw : w.Kept) (hwrites : env.WritesSucceed)
    (hkeeps : req.KeepsStanding w)
    (h : (req.respond env).alone false w = some (response, held, w'))
    (hs : response.Succeeds) : w'.Kept := by
  refine (bothChange_respond hw hwrites hkeeps h hs).kept hw ?_
  have hcall : GatewayCall (req.operation.prog env) := .inl ⟨env, req.operation, rfl⟩
  have halone : (req.operation.prog env).alone false w = some ((), held, w') := by
    rw [req.prog_operation]
    exact alone_ignore_of h
  exact (Follows.alone (fun _ _ hids hstep => hstep.idsMatch hids) (hcall.takes w) hw.idsMatch
    halone).1

/-! ## Messages -/

/-- The message leaves the input that it is about running or stopped as it is. -/
def StateChange.KeepsStanding (change : StateChange) (w : World) : Prop :=
  match change with
  | .inputStateChanged i status .. => ∀ info, w.streams.lookup i = some info →
    (status = .stopped ↔ info.status = .stopped)
  | .outputStateChanged .. => True

theorem outputStanding_withOutput {info : InputInfo} {k : Int} {output output' : OutputInfo}
    (h : info.outputTasks.lookup k = some output) (m : Int) :
    InputInfo.outputStanding { info with
      outputTasks := info.outputTasks.insert k output' } m = info.outputStanding m := by
  rw [outputStanding_insertOutput]
  split
  · rename_i hm
    subst hm
    have hmem : m ∈ info.outputTasks := HashMap.mem_iff.mpr ⟨_, h⟩
    simp [InputInfo.outputStanding, hmem]
  · rfl

theorem sameStanding_applyProcessing {w : World}
    (h : ∀ e, w.rt.processing = some e → e.change.KeepsStanding w) :
    SameStanding w (applyProcessing w).2 := by
  have hdb : (applyProcessing w).2.db = w.db := by
    unfold applyProcessing
    split <;> rfl
  refine ⟨hdb, ?_⟩
  rcases applyProcessing_streams w with hs | ⟨e, he, hs⟩
  · exact standings_of_streams hs
  rcases applyChange_cases e.change w.streams with hc | ⟨i, info, info', hi, hc, hinfo⟩
  · exact standings_of_streams (hs.trans hc)
  rcases hinfo with ⟨status, connectedAt, sourceAddress, hchange, rfl⟩ |
    ⟨k, output, status, connectedAt, peerAddress, _, hk, rfl⟩
  · have hkeeps := h e he
    rw [hchange] at hkeeps
    refine standings_same hi (hs.trans hc) ?_ fun _ => rfl
    simp only [InputInfo.standing, InputInfo.withStatus, hkeeps info hi]
  · exact standings_same hi (hs.trans hc) rfl (outputStanding_withOutput hk)

/-- The message that is taken is the one under way for the longest time. -/
theorem receive_processing (w : World) :
    (receive w).2.rt.processing = w.rt.underway.head? := by
  unfold receive Runtime.underway
  cases hp : w.rt.processing <;> cases w.rt.queue <;> simp [hp]

theorem sameStanding_processMessage {w w' : World} {held : Bool}
    (hkeeps : ∀ e, w.rt.underway.head? = some e → e.change.KeepsStanding w)
    (h : processMessage.alone false w = some ((), held, w')) : SameStanding w w' := by
  have hreceive : SameStanding w (receive w).2 := by
    refine ⟨?_, standings_of_streams (receive_streams w)⟩
    unfold receive
    split <;> rfl
  have happly : SameStanding (receive w).2 (applyProcessing (receive w).2).2 := by
    refine sameStanding_applyProcessing fun e he => ?_
    have hchange := hkeeps e (receive_processing w ▸ he)
    unfold StateChange.KeepsStanding at hchange ⊢
    rwa [receive_streams]
  unfold processMessage at h
  rw [alone_atomic_bind, alone_locked_bind] at h
  split at h
  · obtain ⟨_, _, rfl⟩ := alone_ret_eq_some.mp h
    exact hreceive.trans happly
  · rw [alone_atomic] at h
    obtain ⟨_, hrest⟩ := Prod.mk.inj (Option.some.inj h)
    obtain ⟨_, rfl⟩ := Prod.mk.inj hrest
    exact (hreceive.trans happly).trans ⟨rfl, rfl⟩

theorem World.Kept.same {w w' : World} (h : w.Kept) (hids : w'.IdsMatch)
    (hsame : SameStanding w w') : w'.Kept := by
  refine ⟨hids, hsame.db ▸ h.recoverable, ?_, hsame.standings ▸ h.idle⟩
  rw [hsame.standings, hsame.db]
  exact h.agree

/-! ## Runs -/

/-- What happens next: a request is answered, the processor takes a message, or a task goes
on. -/
inductive Turn
  | request (req : StreamRequest)
  | message
  | task

/-- The requests come one after the other, their writes succeed, and so do they. -/
inductive Turn.Leads : Turn → World → World → Prop
  | request {env : Env} {req : StreamRequest} {w w' : World} {held : Bool}
      {response : Response} : env.WritesSucceed →
      (req.respond env).alone false w = some (response, held, w') → response.Succeeds →
      Leads (.request req) w w'
  | message {w w' : World} {held : Bool} :
      processMessage.alone false w = some ((), held, w') → Leads .message w w'
  | task {w w' : World} : TaskStep w w' → Leads .task w w'

def Turn.KeepsStanding (w : World) : Turn → Prop
  | request req => req.KeepsStanding w
  | message => ∀ e, w.rt.underway.head? = some e → e.change.KeepsStanding w
  | task => True

/-- Every turn of the run meets the condition. -/
def StandingRun (C : World → Turn → Prop) : World → World → Prop :=
  Relation.ReflTransGen fun w w' => ∃ t, C w t ∧ Turn.Leads t w w'

theorem kept_boot : (World.boot emptyDatabase).Kept := by
  refine ⟨?_, recoverable_empty, rfl, ?_⟩
  · exact fun i info hi => absurd hi (by simp [World.boot])
  · intro i k hi
    exact absurd hi (by simp [World.standings, World.boot])

theorem Turn.Leads.kept {t : Turn} {w w' : World} (h : t.Leads w w') (hw : w.Kept)
    (hkeeps : t.KeepsStanding w) : w'.Kept := by
  cases h with
  | request hwrites hr hs => exact kept_respond hw hwrites hkeeps hr hs
  | message hr =>
    have hcall : GatewayCall processMessage := .inr rfl
    have hids := (Follows.alone (fun _ _ hids hstep => hstep.idsMatch hids) (hcall.takes w)
      hw.idsMatch hr).1
    exact hw.same hids (sameStanding_processMessage hkeeps hr)
  | task hstep =>
    have hids : w'.IdsMatch :=
      World.Each.of_eq (P := fun i info => info.id = i) hw.idsMatch hstep.streams
    exact hw.same hids ⟨hstep.db, standings_of_streams hstep.streams⟩

theorem StandingRun.kept {w w' : World} (h : StandingRun Turn.KeepsStanding w w')
    (hw : w.Kept) : w'.Kept := by
  induction h with
  | refl => exact hw
  | tail _ hstep ih =>
    obtain ⟨t, hkeeps, hleads⟩ := hstep
    exact hleads.kept ih hkeeps

end StreamGateway
