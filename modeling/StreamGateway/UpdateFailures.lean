import StreamGateway.InputUpdates
import StreamGateway.OutputLosses
import StreamGateway.OutputRows

/-!
# Updates that fail

Both updates write the row, stop the stream, replace its configuration and start it. A start
that is refused leaves all of this done, and an output that does not start is lost as well.
-/
namespace StreamGateway

open Prog

/-! ## What memory has of the streams -/

/-- The configuration of an input, and whether it runs. -/
def World.inputMemory (w : World) (i : Int) : Option (CreateInputRequest × Standing) :=
  (w.streams.lookup i).map fun info => (info.config, info.standing)

/-- The configuration of an output, and whether it runs. -/
def InputInfo.outputMemory (info : InputInfo) (k : Int) : Option (CreateOutputRequest × Standing) :=
  match info.outputTasks.lookup k with
  | some o => some (o.config, .running)
  | none => (info.stoppedOutputs.lookup k).map fun config => (config, .stopped)

def World.outputMemory (w : World) (i k : Int) : Option (CreateOutputRequest × Standing) :=
  (w.streams.lookup i).bind fun info => info.outputMemory k

/-- All streams have their configurations and run or are stopped as before. -/
structure SameMemory (w w' : World) : Prop where
  inputs : ∀ i, w'.inputMemory i = w.inputMemory i
  outputs : ∀ i k, w'.outputMemory i k = w.outputMemory i k

theorem sameMemory_of_streams {w w' : World} (h : w'.streams = w.streams) : SameMemory w w' :=
  ⟨fun i => by rw [World.inputMemory, h, World.inputMemory],
    fun i k => by rw [World.outputMemory, h, World.outputMemory]⟩

/-- One entry is another one, and the others are as they were. -/
def AltersEntry (i : Int) (info' : InputInfo) (w w' : World) : Prop :=
  ∀ j, w'.streams.lookup j = if j = i then some info' else w.streams.lookup j

theorem AltersEntry.sameMemory_iff {w w' : World} {i : Int} {info info' : InputInfo}
    (h : AltersEntry i info' w w') (hi : w.streams.lookup i = some info) :
    SameMemory w w' ↔ info'.config = info.config ∧ info'.standing = info.standing ∧
      ∀ k, info'.outputMemory k = info.outputMemory k := by
  have hi' : w'.streams.lookup i = some info' := (h i).trans (if_pos rfl)
  constructor
  · intro hsame
    have hinput := hsame.inputs i
    simp only [World.inputMemory, hi, hi', Option.map_some, Option.some.injEq,
      Prod.mk.injEq] at hinput
    refine ⟨hinput.1, hinput.2, fun k => ?_⟩
    have houtput := hsame.outputs i k
    rwa [World.outputMemory, World.outputMemory, hi, hi'] at houtput
  · rintro ⟨hconfig, hstanding, houtputs⟩
    refine ⟨fun j => ?_, fun j k => ?_⟩
    · by_cases hj : j = i
      · subst hj
        simp only [World.inputMemory, hi, hi', Option.map_some, hconfig, hstanding]
      · rw [World.inputMemory, h j, if_neg hj, World.inputMemory]
    · by_cases hj : j = i
      · subst hj
        simp only [World.outputMemory, hi, hi', Option.bind_some, houtputs]
      · rw [World.outputMemory, h j, if_neg hj, World.outputMemory]

theorem AltersEntry.insert {w w' w'' : World} {i : Int} {info' info'' : InputInfo}
    (h : AltersEntry i info' w w') (hw : w''.streams = w'.streams.insert i info'') :
    AltersEntry i info'' w w'' := by
  intro j
  rw [hw, HashMap.lookup_insert_eq, h j]
  split <;> rfl

/-! ## Inputs -/

/-- The update of an input writes nothing new, and does not stop it. -/
structure InputUpToDate (i : Int) (merged : CreateInputRequest) (w : World) : Prop where
  row : ∀ row, w.db.inputs.find i = some row → row.withConfig merged = row
  entry : ∀ info, w.streams.lookup i = some info →
    info.config = merged ∧ info.status.isActive = false

/-- The row of the input and the streams in memory are as they were. -/
def KeepsInput (i : Int) (w w' : World) : Prop :=
  w'.db.inputs.find i = w.db.inputs.find i ∧ SameMemory w w'

theorem withInputUpdate_keeps_iff {w : World} {i : Int} {merged : CreateInputRequest} :
    KeepsInput i w (w.withInputUpdate i merged) ↔ InputUpToDate i merged w := by
  have hrow : (w.withInputUpdate i merged).db.inputs.find i = w.db.inputs.find i ↔
      ∀ row, w.db.inputs.find i = some row → row.withConfig merged = row := by
    rw [withInputUpdate_db, World.withInputRow]
    exact Table.find_update_eq_iff
  unfold KeepsInput
  rw [hrow]
  cases hi : w.streams.lookup i with
  | none =>
    have hsame : SameMemory w (w.withInputUpdate i merged) := by
      rw [withInputUpdate_none hi]
      exact sameMemory_of_streams rfl
    constructor
    · exact fun h => ⟨h.1, fun info hinfo => absurd (hi.symm.trans hinfo) (by simp)⟩
    · exact fun h => ⟨h.row, hsame⟩
  | some info =>
    have halters : AltersEntry i (info.updated merged w.rt) w (w.withInputUpdate i merged) :=
      withInputUpdate_streams hi merged
    rw [halters.sameMemory_iff hi]
    constructor
    · rintro ⟨hrow, hconfig, hstanding, _⟩
      refine ⟨hrow, fun info' hinfo => ?_⟩
      obtain rfl := Option.some.inj (hi.symm.trans hinfo)
      refine ⟨hconfig.symm, ?_⟩
      by_contra hactive
      rw [Bool.not_eq_false] at hactive
      have hstatus : info.status ≠ .stopped := by
        intro hs
        simp [hs, StreamStatus.isActive] at hactive
      simp [InputInfo.standing, InputInfo.updated, hactive, stopInputInfo, hstatus] at hstanding
    · intro h
      obtain ⟨hconfig, hinactive⟩ := h.entry info hi
      have hsame : info.updated merged w.rt = info := by
        simp [InputInfo.updated, hinactive, ← hconfig]
      rw [hsame]
      exact ⟨h.row, rfl, rfl, fun _ => rfl⟩

/-- An update of an input that fails changes nothing, unless the row is written and the start
is then refused. -/
theorem updateInput_atomic_iff {env : Env} {i : Int} {req : UpdateInputRequest} {w w' : World}
    {held : Bool} {response : Response} (hids : w.IdsMatch)
    (h : (updateInput env i req).alone false w = some (response, held, w')) :
    (400 ≤ response.status → KeepsInput i w w') ↔ ∀ merged, MergesInput env i req w merged →
      merged.CanStart i w ∨ InputUpToDate i merged w := by
  have hsame : ∀ {merged merged'}, MergesInput env i req w merged →
      MergesInput env i req w merged' → merged' = merged := fun h h' =>
    (Except.ok.inj (h.stored.symm.trans h'.stored)).symm
  cases updateInput_outcome hids h with
  | refused _ hnone =>
    exact iff_of_true (fun _ => ⟨rfl, sameMemory_of_streams rfl⟩)
      fun merged hmerges => absurd hmerges (hnone merged)
  | notStarted merged hstatus hmerges hcan =>
    rw [withInputUpdate_keeps_iff]
    constructor
    · intro hkept merged' hmerges'
      rw [hsame hmerges hmerges']
      exact .inr (hkept hstatus)
    · exact fun hcondition _ => (hcondition merged hmerges).resolve_left hcan
  | started merged info t hstatus hmerges hcan =>
    refine iff_of_true (fun herror => ?_) fun merged' hmerges' => ?_
    · omega
    · rw [hsame hmerges hmerges']
      exact .inl hcan

/-! ## Outputs -/

/-- The request is merged with the row, and the row is written. -/
structure MergesOutput (env : Env) (k : Int) (req : UpdateOutputRequest) (w : World)
    (inputId : Int) (merged : CreateOutputRequest) : Prop where
  stored : (storedOutput env k req w).1 = .ok (inputId, merged)
  query : env.queryError .updateOutput = none

def World.withOutputRow (w : World) (k : Int) (merged : CreateOutputRequest) : World :=
  { w with db := { w.db with
    outputs := w.db.outputs.update k fun row => row.withConfig merged } }

/-- The input is there and not stopped, and the destination resolves. -/
def CreateOutputRequest.CanStart (config : CreateOutputRequest) (env : Env) (inputId : Int)
    (w : World) : Prop :=
  config.Resolves env ∧ ∃ info, w.streams.lookup inputId = some info ∧ info.status ≠ .stopped

/-- One output of the entry no longer runs. -/
structure MovesOutput (k : Int) (stopped : Option CreateOutputRequest) (info info' : InputInfo) :
    Prop where
  config : info'.config = info.config
  status : info'.status = info.status
  running : ∀ m, info'.outputTasks.lookup m = if m = k then none else info.outputTasks.lookup m
  stopped : ∀ m, info'.stoppedOutputs.lookup m =
    if m = k then stopped else info.stoppedOutputs.lookup m

theorem MovesOutput.outputMemory {k : Int} {stopped : Option CreateOutputRequest}
    {info info' : InputInfo} (h : MovesOutput k stopped info info') (m : Int) :
    info'.outputMemory m = if m = k then stopped.map (fun config => (config, .stopped))
      else info.outputMemory m := by
  unfold InputInfo.outputMemory
  rw [h.running, h.stopped]
  by_cases hm : m = k
  · simp only [if_pos hm]
  · simp only [if_neg hm]

theorem MovesOutput.withoutStopped {k : Int} {stopped : Option CreateOutputRequest}
    {info info' : InputInfo} (h : MovesOutput k stopped info info') :
    MovesOutput k none info (info'.withoutStopped k) := by
  refine ⟨h.config, h.status, h.running, fun m => ?_⟩
  rw [InputInfo.withoutStopped, HashMap.lookup_erase_eq, h.stopped m]
  split <;> rfl

/-- What the failed start of an output leaves of the stream. -/
inductive OutputLeft (env : Env) (inputId k : Int) (merged : CreateOutputRequest) (w w' : World) :
    Prop
  | noInput : w.streams.lookup inputId = none → w'.streams = w.streams →
      OutputLeft env inputId k merged w w'
  | stopped (info info' : InputInfo) : w.streams.lookup inputId = some info →
      info.status = .stopped → AltersEntry inputId info' w w' →
      MovesOutput k (some merged) info info' → OutputLeft env inputId k merged w w'
  | lost (info info' : InputInfo) : w.streams.lookup inputId = some info →
      info.status ≠ .stopped → AltersEntry inputId info' w w' →
      MovesOutput k none info info' → OutputLeft env inputId k merged w w'

/-- What an update comes to. -/
inductive OutputUpdateOutcome (env : Env) (k : Int) (req : UpdateOutputRequest) (w : World) :
    Response → World → Prop
  | refused {response : Response} : 400 ≤ response.status →
      (∀ inputId merged, ¬ MergesOutput env k req w inputId merged) →
      OutputUpdateOutcome env k req w response w
  | notStarted {response : Response} {w' : World} (inputId : Int)
      (merged : CreateOutputRequest) : 400 ≤ response.status →
      MergesOutput env k req w inputId merged → ¬ merged.CanStart env inputId w →
      w'.db = (w.withOutputRow k merged).db → OutputLeft env inputId k merged w w' →
      OutputUpdateOutcome env k req w response w'
  | started {response : Response} {w' : World} (inputId : Int)
      (merged : CreateOutputRequest) : response.status = 200 →
      MergesOutput env k req w inputId merged → merged.CanStart env inputId w →
      (w'.db.outputs.find k).map OutputRow.destination =
        ((w.withOutputRow k merged).db.outputs.find k).map OutputRow.destination →
      OutputUpdateOutcome env k req w response w'

section Outputs

variable {env : Env} {w w' : World} {inputId k : Int} {req : UpdateOutputRequest}
  {merged : CreateOutputRequest} {held : Bool} {response : Response}

theorem currentOutputConfig_error {row : OutputRow} {r : Response}
    (h : currentOutputConfig env row = .error r) : 400 ≤ r.status := by
  unfold currentOutputConfig at h
  split at h
  · split at h
    · obtain rfl := Except.error.inj h
      simp [Response.internalServerError]
    · exact absurd h (by simp)
  · split at h
    · exact absurd h (by simp)
    · obtain rfl := Except.error.inj h
      simp [Response.internalServerError]

theorem mergedOutput_error {row : OutputRow} {r : Response}
    (h : mergedOutput env req row = .error r) : 400 ≤ r.status := by
  unfold mergedOutput at h
  split at h
  · next e hcurrent =>
    obtain rfl := Except.error.inj h
    exact currentOutputConfig_error hcurrent
  · split at h
    · obtain rfl := Except.error.inj h
      simp [Response.badRequest]
    · split at h
      · obtain rfl := Except.error.inj h
        simp [Response.badRequest]
      · exact absurd h (by simp)

theorem storedOutput_error {r : Response} (h : (storedOutput env k req w).1 = .error r) :
    400 ≤ r.status := by
  unfold storedOutput at h
  split at h
  · obtain rfl := Except.error.inj h
    simp [databaseError, Response.internalServerError]
  · obtain rfl := Except.error.inj h
    simp [Response.notFound]
  · rename_i row _ _
    cases hm : mergedOutput env req row with
    | error e =>
      rw [hm] at h
      obtain rfl := Except.error.inj h
      exact mergedOutput_error hm
    | ok config =>
      rw [hm] at h
      exact absurd h (by simp [Except.map])

/-- The stop of a running output. -/
theorem stopOutputSection_running {info : InputInfo} {o : OutputInfo}
    (hi : w.streams.lookup inputId = some info) (hk : info.outputTasks.lookup k = some o) :
    stopOutputSection inputId k w = (.ok (), { w with
      streams := w.streams.insert inputId { info with
        outputTasks := info.outputTasks.erase k
        stoppedOutputs := info.stoppedOutputs.insert k o.config }
      rt := w.rt.abortHandle o.abortHandle }) := by
  unfold stopOutputSection
  simp only [hi, hk]

/-- The state in which the output is started: it does not run and has the merged
configuration. -/
theorem alone_replaceConfig {info : InputInfo} (hi : w.streams.lookup inputId = some info)
    (k : Int) (merged : CreateOutputRequest) :
    ∃ w₁ info₁, (if k ∈ info.outputTasks then stopOutput inputId k
        else return .ok () : Prog World (Except String Unit)).alone false w =
          some (.ok (), false, w₁) ∧
      (setStoppedConfig inputId k merged w₁).2.db = w.db ∧
      AltersEntry inputId info₁ w (setStoppedConfig inputId k merged w₁).2 ∧
      MovesOutput k (some merged) info info₁ := by
  cases hk : info.outputTasks.lookup k with
  | some o =>
    have hmem : k ∈ info.outputTasks := HashMap.mem_iff.mpr ⟨_, hk⟩
    have hstop := stopOutputSection_running hi hk
    refine ⟨(stopOutputSection inputId k w).2, { info with
      outputTasks := info.outputTasks.erase k
      stoppedOutputs := (info.stoppedOutputs.insert k o.config).insert k merged }, ?_, ?_,
      fun j => ?_, rfl, rfl, fun m => ?_, fun m => ?_⟩
    · rw [if_pos hmem, stopOutput, alone_locked, hstop]
    · rw [setStoppedConfig_db, hstop]
    · rw [hstop]
      simp only [setStoppedConfig, AList.lookup_insert]
      rw [HashMap.lookup_insert_eq, HashMap.lookup_insert_eq]
      split <;> rfl
    · exact HashMap.lookup_erase_eq _ k m
    · rw [HashMap.lookup_insert_eq, HashMap.lookup_insert_eq]
      split <;> rfl
  | none =>
    have hmem : k ∉ info.outputTasks := AList.lookup_eq_none.mp hk
    refine ⟨w, { info with stoppedOutputs := info.stoppedOutputs.insert k merged }, ?_, ?_,
      fun j => ?_, rfl, rfl, fun m => ?_, fun m => ?_⟩
    · rw [if_neg hmem]
      rfl
    · rw [setStoppedConfig_db]
    · simp only [setStoppedConfig, hi]
      exact HashMap.lookup_insert_eq _ inputId j _
    · split
      · next hm => rw [hm, hk]
      · rfl
    · exact HashMap.lookup_insert_eq _ k m merged

/-- The status goes to a column of its own. -/
theorem updateOutputStatusInDb_destination (env : Env) (k : Int) (status : String) (w : World) :
    ((updateOutputStatusInDb env k status w).2.db.outputs.find k).map OutputRow.destination =
      (w.db.outputs.find k).map OutputRow.destination := by
  unfold updateOutputStatusInDb query
  split
  · rfl
  · dsimp only
    rw [Table.find_update, if_pos rfl, Option.map_map]
    rfl

/-- What the merged configuration comes to once it is stored. -/
theorem applyOutputUpdate_outcome {info : InputInfo}
    (hmerges : MergesOutput env k req w inputId merged)
    (hi : w.streams.lookup inputId = some info)
    (h : (applyOutputUpdate env inputId k merged (decide (k ∈ info.outputTasks))).alone false
      (w.withOutputRow k merged) = some (response, held, w')) :
    OutputUpdateOutcome env k req w response w' := by
  obtain ⟨w₁, info₁, hreplace, hdb, halters, hmoves⟩ :=
    @alone_replaceConfig (w.withOutputRow k merged) inputId info hi k merged
  unfold applyOutputUpdate at h
  simp only [decide_eq_true_eq] at h
  rw [alone_bind, hreplace] at h
  dsimp only [Option.bind_some] at h
  rw [alone_locked_bind, startOutput, alone_locked_bind] at h
  have hi₁ := (halters inputId).trans (if_pos rfl)
  have hk₁ := (hmoves.stopped k).trans (if_pos rfl)
  rcases startOutputSection_cases env inputId k (setStoppedConfig inputId k merged w₁).2 with
    ⟨⟨e, hs⟩, hnone⟩ | ⟨info₂, config, hi₂, hstart, hs⟩
  · have hstopped : info.status = .stopped := by
      by_contra hstatus
      exact hnone info₁ merged hi₁ ⟨fun hs => hstatus (hmoves.status.symm.trans hs), hk₁⟩
    rw [hs] at h
    obtain ⟨rfl, _, rfl⟩ := alone_ret_eq_some.mp h
    refine .notStarted inputId merged (by simp [Response.internalServerError]) hmerges ?_ hdb
      (.stopped info info₁ hi hstopped halters hmoves)
    rintro ⟨_, info', hi', hstatus⟩
    obtain rfl := Option.some.inj (hi.symm.trans hi')
    exact hstatus hstopped
  obtain rfl := Option.some.inj (hi₁.symm.trans hi₂)
  obtain rfl := Option.some.inj (hk₁.symm.trans hstart.2)
  have hstatus : info.status ≠ .stopped := fun hs => hstart.1 (hmoves.status.trans hs)
  rcases hs with ⟨⟨e, hs⟩, hres⟩ | ⟨hres, info', rt, _, hs⟩
  · rw [hs] at h
    obtain ⟨rfl, _, rfl⟩ := alone_ret_eq_some.mp h
    exact .notStarted inputId merged (by simp [Response.internalServerError]) hmerges
      (fun hcan => hres hcan.1) hdb
      (.lost info (info₁.withoutStopped k) hi hstatus (halters.insert rfl) hmoves.withoutStopped)
  · rw [hs] at h
    obtain ⟨rfl, _, rfl⟩ := alone_ret_eq_some.mp h
    refine .started inputId merged rfl hmerges ⟨hres, info, hi, hstatus⟩ ?_
    rw [updateOutputStatusInDb_destination]
    dsimp only
    rw [hdb]

theorem updateOutput_outcome
    (h : (updateOutput env k req).alone false w = some (response, held, w')) :
    OutputUpdateOutcome env k req w response w' := by
  unfold updateOutput at h
  rw [alone_atomic_bind, (storedOutput_spec env k req w).1] at h
  cases hstored : (storedOutput env k req w).1 with
  | error r =>
    rw [hstored] at h
    obtain ⟨rfl, _, rfl⟩ := alone_ret_eq_some.mp h
    refine .refused (storedOutput_error hstored) fun _ _ hmerges => ?_
    exact absurd (hstored.symm.trans hmerges.stored) (by simp)
  | ok stored =>
  obtain ⟨inputId, merged⟩ := stored
  rw [hstored] at h
  dsimp only at h
  rw [alone_atomic_bind] at h
  unfold updateOutputInDb query at h
  cases hq : env.queryError .updateOutput with
  | some e =>
    rw [hq] at h
    obtain ⟨rfl, _, rfl⟩ := alone_ret_eq_some.mp h
    refine .refused (by simp [databaseError, Response.internalServerError])
      fun _ _ hmerges => ?_
    exact absurd (hq.symm.trans hmerges.query) (by simp)
  | none =>
  have hmerges : MergesOutput env k req w inputId merged := ⟨hstored, hq⟩
  rw [hq] at h
  dsimp only at h
  rw [alone_locked_bind] at h
  unfold outputStanding at h
  cases hi : w.streams.lookup inputId with
  | none =>
    simp only [hi, Option.map_none] at h
    obtain ⟨rfl, _, rfl⟩ := alone_ret_eq_some.mp h
    refine .notStarted inputId merged (by simp [inputNotFound, Response.notFound]) hmerges
      ?_ rfl (.noInput hi rfl)
    rintro ⟨_, info, hinfo, _⟩
    exact absurd (hi.symm.trans hinfo) (by simp)
  | some info =>
    simp only [hi, Option.map_some] at h
    exact applyOutputUpdate_outcome hmerges hi h

/-- The update of an output writes nothing new. Where the start is refused, the output is
stopped with the merged configuration, and where the destination does not resolve, it is not
there. -/
structure OutputUpToDate (inputId k : Int) (merged : CreateOutputRequest) (w : World) : Prop where
  row : ∀ row, w.db.outputs.find k = some row → row.withConfig merged = row
  entry : ∀ info, w.streams.lookup inputId = some info →
    info.outputMemory k = if info.status = .stopped then some (merged, .stopped) else none

/-- The row of the output and the streams in memory are as they were. -/
def KeepsOutput (k : Int) (w w' : World) : Prop :=
  w'.db.outputs.find k = w.db.outputs.find k ∧ SameMemory w w'

/-- In the altered entry only the one output has changed. -/
theorem AltersEntry.movesOutput_iff {info info' : InputInfo}
    {stopped : Option CreateOutputRequest} (h : AltersEntry inputId info' w w')
    (hi : w.streams.lookup inputId = some info) (hmoves : MovesOutput k stopped info info') :
    SameMemory w w' ↔
      info.outputMemory k = stopped.map fun config => (config, .stopped) := by
  rw [h.sameMemory_iff hi]
  constructor
  · rintro ⟨_, _, houtputs⟩
    rw [← houtputs k, hmoves.outputMemory, if_pos rfl]
  · intro hk
    refine ⟨hmoves.config, ?_, fun m => ?_⟩
    · rw [InputInfo.standing, hmoves.status, InputInfo.standing]
    · rw [hmoves.outputMemory]
      split
      · rename_i hm
        rw [hm, hk]
      · rfl

theorem OutputLeft.keeps_iff (h : OutputLeft env inputId k merged w w')
    (hdb : w'.db = (w.withOutputRow k merged).db) :
    KeepsOutput k w w' ↔ OutputUpToDate inputId k merged w := by
  have hrow : w'.db.outputs.find k = w.db.outputs.find k ↔
      ∀ row, w.db.outputs.find k = some row → row.withConfig merged = row := by
    rw [hdb, World.withOutputRow]
    exact Table.find_update_eq_iff
  have hentry : SameMemory w w' ↔ ∀ info, w.streams.lookup inputId = some info →
      info.outputMemory k = if info.status = .stopped then some (merged, .stopped) else none := by
    cases h with
    | noInput hi hs =>
      exact iff_of_true (sameMemory_of_streams hs)
        fun info hinfo => absurd (hi.symm.trans hinfo) (by simp)
    | stopped info info' hi hstatus halters hmoves =>
      rw [halters.movesOutput_iff hi hmoves]
      simp only [hi, Option.some.injEq, forall_eq', hstatus, if_true, Option.map_some]
    | lost info info' hi hstatus halters hmoves =>
      rw [halters.movesOutput_iff hi hmoves]
      simp only [hi, Option.some.injEq, forall_eq', hstatus, if_false, Option.map_none]
  rw [KeepsOutput, hrow, hentry]
  exact ⟨fun h => ⟨h.1, h.2⟩, fun h => ⟨h.row, h.entry⟩⟩

/-- An update of an output that fails changes nothing, unless the row is written and the start
then fails. -/
theorem updateOutput_atomic_iff
    (h : (updateOutput env k req).alone false w = some (response, held, w')) :
    (400 ≤ response.status → KeepsOutput k w w') ↔ ∀ inputId merged,
      MergesOutput env k req w inputId merged →
        merged.CanStart env inputId w ∨ OutputUpToDate inputId k merged w := by
  have hsame : ∀ {i merged i' merged'}, MergesOutput env k req w i merged →
      MergesOutput env k req w i' merged' → i' = i ∧ merged' = merged := fun h h' =>
    Prod.mk.inj (Except.ok.inj (h'.stored.symm.trans h.stored))
  cases updateOutput_outcome h with
  | refused _ hnone =>
    exact iff_of_true (fun _ => ⟨rfl, sameMemory_of_streams rfl⟩)
      fun i merged hmerges => absurd hmerges (hnone i merged)
  | notStarted i merged hstatus hmerges hcan hdb hleft =>
    rw [hleft.keeps_iff hdb]
    constructor
    · intro hkept i' merged' hmerges'
      obtain ⟨rfl, rfl⟩ := hsame hmerges hmerges'
      exact .inr (hkept hstatus)
    · exact fun hcondition _ => (hcondition i merged hmerges).resolve_left hcan
  | started i merged hstatus hmerges hcan _ =>
    refine iff_of_true (fun herror => ?_) fun i' merged' hmerges' => ?_
    · omega
    · obtain ⟨rfl, rfl⟩ := hsame hmerges hmerges'
      exact .inl hcan

end Outputs

/-- Updates that fail change nothing, unless the row is written and the start then fails. -/
theorem updates_atomic_iff {env : Env} {w : World} (hw : Reachable w) :
    (∀ i req response held w',
      (updateInput env i req).alone false w = some (response, held, w') →
      ((400 ≤ response.status → KeepsInput i w w') ↔ ∀ merged, MergesInput env i req w merged →
        merged.CanStart i w ∨ InputUpToDate i merged w)) ∧
    ∀ k req response held w',
      (updateOutput env k req).alone false w = some (response, held, w') →
      ((400 ≤ response.status → KeepsOutput k w w') ↔ ∀ inputId merged,
        MergesOutput env k req w inputId merged →
          merged.CanStart env inputId w ∨ OutputUpToDate inputId k merged w) :=
  ⟨fun _ _ _ _ _ h => updateInput_atomic_iff hw.idsMatch h,
    fun _ _ _ _ _ h => updateOutput_atomic_iff h⟩

def newsRequest : CreateInputRequest := .spts 1 100 (some false) (some "News")

def backupRequest : CreateOutputRequest :=
  .srt 1 (some "Backup") (.listener none (some 9000) none .default none)

/-- A program filter and an SRT output, stopped like the input that they read from. -/
def restingWorld : World :=
  (((runningWorld.after ((Operation.createInput newsRequest).prog localEnv)).after
    ((Operation.createOutput backupRequest).prog localEnv)).after
    ((Operation.stopInput 2).prog localEnv)).after ((Operation.stopInput 1).prog localEnv)

theorem rests_restingWorld : Rests restingWorld :=
  (((rests_runningWorld.after (.createInput newsRequest) (by decide +kernel)).after
    (.createOutput backupRequest) (by decide +kernel)).after
    (.stopInput 2) (by decide +kernel)).after (.stopInput 1) (by decide +kernel)

/-- An update of an SRT listener that sets nothing. -/
def idleUpdate : UpdateOutputRequest :=
  .srt none (.listener none none ⟨none, none, none, none, none⟩)

/-- The updates write nothing new into their rows, and the starts fail. -/
theorem idleUpdates_keep :
    KeepsInput 2 restingWorld
        (restingWorld.after (updateInput localEnv 2 (.spts none none)).ignore) ∧
      KeepsOutput 1 restingWorld
        (restingWorld.after (updateOutput localEnv 1 idleUpdate).ignore) := by
  constructor
  · obtain ⟨response, held, hr, hstatus⟩ :=
      @alone_answers (updateInput localEnv 2 (.spts none none)) restingWorld 500
        (by decide +kernel)
    refine ((updates_atomic_iff rests_restingWorld.reachable).1 _ _ _ _ _ hr).mpr
      (fun merged hmerges => .inr ?_) (by omega)
    have hstored : (storedInput localEnv 2 (.spts none none) restingWorld).1.toOption =
        some newsRequest := by
      decide +kernel
    rw [hmerges.stored] at hstored
    obtain rfl : merged = newsRequest := Option.some.inj hstored
    have hrow : (restingWorld.db.inputs.find 2).map (·.withConfig newsRequest) =
        restingWorld.db.inputs.find 2 := rfl
    have hentry : (restingWorld.streams.lookup 2).all fun info =>
        info.config = newsRequest ∧ info.status.isActive = false := by
      decide +kernel
    refine ⟨fun row hfind => ?_,
      fun info hi => of_decide_eq_true ((Option.all_eq_true _ _).mp hentry info hi)⟩
    rw [hfind] at hrow
    exact Option.some.inj hrow
  · obtain ⟨response, held, hr, hstatus⟩ :=
      @alone_answers (updateOutput localEnv 1 idleUpdate) restingWorld 500 (by decide +kernel)
    refine ((updates_atomic_iff rests_restingWorld.reachable).2 _ _ _ _ _ hr).mpr
      (fun inputId merged hmerges => .inr ?_) (by omega)
    have hstored : (storedOutput localEnv 1 idleUpdate restingWorld).1.toOption =
        some (1, backupRequest) := by
      decide +kernel
    rw [hmerges.stored] at hstored
    obtain ⟨rfl, rfl⟩ : inputId = 1 ∧ merged = backupRequest :=
      Prod.mk.inj (Option.some.inj hstored)
    have hrow : (restingWorld.db.outputs.find 1).map (·.withConfig backupRequest) =
        restingWorld.db.outputs.find 1 := rfl
    have hentry : (restingWorld.streams.lookup 1).all fun info => info.outputMemory 1 =
        if info.status = .stopped then some (backupRequest, .stopped) else none := by
      decide +kernel
    refine ⟨fun row hfind => ?_,
      fun info hi => of_decide_eq_true ((Option.all_eq_true _ _).mp hentry info hi)⟩
    rw [hfind] at hrow
    exact Option.some.inj hrow

/-- The source of a program filter was stopped, and the filter was not. -/
def sourcelessWorld : World :=
  (runningWorld.after ((Operation.createInput (.spts 1 100 none none)).prog localEnv)).after
    ((Operation.stopInput 1).prog localEnv)

theorem rests_sourcelessWorld : Rests sourcelessWorld :=
  (rests_runningWorld.after (.createInput (.spts 1 100 none none)) (by decide +kernel)).after
    (.stopInput 1) (by decide +kernel)

/-- The program filter is stopped, and its source is not active. The output is stopped, and
the name of its new host does not resolve. -/
theorem failed_updates_change :
    (¬ ∀ env i req w w' held response, Reachable w →
      (updateInput env i req).alone false w = some (response, held, w') →
      400 ≤ response.status → KeepsInput i w w') ∧
    ¬ ∀ env k req w w' held response, Reachable w →
      (updateOutput env k req).alone false w = some (response, held, w') →
      400 ≤ response.status → KeepsOutput k w w' := by
  constructor
  · intro h
    obtain ⟨response, held, hr, hstatus⟩ :=
      @alone_answers (updateInput localEnv 2 (.spts none (some true))) sourcelessWorld 500
        (by decide +kernel)
    have hkept := h _ _ _ _ _ _ _ rests_sourcelessWorld.reachable hr (by omega)
    exact absurd (hkept.2.inputs 2) (by decide +kernel)
  · intro h
    obtain ⟨response, held, hr, hstatus⟩ :=
      @alone_answers (updateOutput offlineEnv 1 (outputUpdate (some "localhost"))) pairedWorld 500
        (by decide +kernel)
    have hkept := h _ _ _ _ _ _ _ rests_pairedWorld.reachable hr (by omega)
    exact absurd (hkept.2.outputs 1 1) (by decide +kernel)

end StreamGateway
