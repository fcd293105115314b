import StreamGateway.Invariants
import StreamGateway.OutputRows

/-!
# The inputs of outputs

The input of an output is recorded in four places: in the entry of the input that the output
is found in, in the record of the output, in its configuration, and in its row. Keys of rows
are never given twice, so over a run each key belongs to one input, and every call finds its
input id in a place where it is the one that the key belongs to.
-/
namespace StreamGateway

open Prog

/-- The records of the outputs of an entry name the input that the outputs belong to. -/
structure InputInfo.OwnsOutputs (own : Int → Int) (i : Int) (info : InputInfo) : Prop where
  id : info.id = i
  running : ∀ k o, info.outputTasks.lookup k = some o →
    own k = i ∧ o.inputId = i ∧ o.config.inputId = i
  stopped : ∀ k config, info.stoppedOutputs.lookup k = some config →
    own k = i ∧ config.inputId = i

def InputInfo.HasOutput (info : InputInfo) (k : Int) : Prop :=
  k ∈ info.outputTasks ∨ k ∈ info.stoppedOutputs

/-- The row and its configuration, if it has one, name the input that the output belongs to. -/
structure OutputRow.NamesOwner (own : Int → Int) (k : Int) (row : OutputRow) : Prop where
  inputId : row.inputId = own k
  config : ∀ j config, row.configJson = some j → j.read CreateOutputRequest.ofFields = some config →
    config.inputId = own k

structure World.Attributed (own : Int → Int) (w : World) : Prop where
  entries : w.Each (InputInfo.OwnsOutputs own)
  rows : ∀ k row, (k, row) ∈ w.db.outputs.rows → row.NamesOwner own k

/-! ## Entries -/

section Entries

variable {own : Int → Int} {i : Int} {info info' : InputInfo}

theorem InputInfo.NoOutputs.owns (h : info.NoOutputs i) : info.OwnsOutputs own i := by
  refine ⟨h.id, fun k o ho => ?_, fun k config hc => ?_⟩
  · rw [h.outputTasks] at ho
    exact absurd ho (by simp)
  · rw [h.stoppedOutputs] at hc
    exact absurd hc (by simp)

theorem InputInfo.OwnsOutputs.owner (h : info.OwnsOutputs own i) {k : Int}
    (hk : info.HasOutput k) : own k = i := by
  rcases hk with hk | hk
  · obtain ⟨o, ho⟩ := HashMap.mem_iff.mp hk
    exact (h.running k o ho).1
  · obtain ⟨config, hc⟩ := HashMap.mem_iff.mp hk
    exact (h.stopped k config hc).1

theorem InputInfo.OwnsOutputs.same (h : info.OwnsOutputs own i) (hs : SameOutputs info info') :
    info'.OwnsOutputs own i := by
  refine ⟨hs.id.trans h.id, ?_, ?_⟩
  · rw [hs.outputTasks]
    exact h.running
  · rw [hs.stoppedOutputs]
    exact h.stopped

/-- An output that belongs to the input is put into `output_tasks`. -/
theorem InputInfo.OwnsOutputs.insertTask (h : info.OwnsOutputs own i) {k : Int} {o : OutputInfo}
    (hk : own k = i) (ho : o.inputId = i) (hc : o.config.inputId = i) :
    InputInfo.OwnsOutputs own i { info with outputTasks := info.outputTasks.insert k o } := by
  refine ⟨h.id, fun k' o' ho' => ?_, h.stopped⟩
  rcases HashMap.lookup_insert_eq_some.mp ho' with ⟨rfl, rfl⟩ | ⟨_, ho'⟩
  · exact ⟨hk, ho, hc⟩
  · exact h.running k' o' ho'

theorem InputInfo.OwnsOutputs.insertStopped (h : info.OwnsOutputs own i) {k : Int}
    {config : CreateOutputRequest} (hk : own k = i) (hc : config.inputId = i) :
    InputInfo.OwnsOutputs own i
      { info with stoppedOutputs := info.stoppedOutputs.insert k config } := by
  refine ⟨h.id, h.running, fun k' config' hc' => ?_⟩
  rcases HashMap.lookup_insert_eq_some.mp hc' with ⟨rfl, rfl⟩ | ⟨_, hc'⟩
  · exact ⟨hk, hc⟩
  · exact h.stopped k' config' hc'

theorem InputInfo.OwnsOutputs.eraseTask (h : info.OwnsOutputs own i) (k : Int) :
    InputInfo.OwnsOutputs own i { info with outputTasks := info.outputTasks.erase k } :=
  ⟨h.id, fun k' o ho => h.running k' o (HashMap.lookup_erase_eq_some.mp ho).2, h.stopped⟩

theorem InputInfo.OwnsOutputs.eraseStopped (h : info.OwnsOutputs own i) (k : Int) :
    InputInfo.OwnsOutputs own i { info with stoppedOutputs := info.stoppedOutputs.erase k } :=
  ⟨h.id, h.running, fun k' config hc => h.stopped k' config (HashMap.lookup_erase_eq_some.mp hc).2⟩

/-- A restarted output is registered for the input that it belongs to. -/
theorem InputInfo.OwnsOutputs.startOutputInternal (h : info.OwnsOutputs own i) {env : Env}
    {k : Int} {config : CreateOutputRequest} {rt rt' : Runtime} (hk : own k = i)
    (hc : config.inputId = i)
    (hr : startOutputInternal env info k config rt = .ok (info', rt')) :
    info'.OwnsOutputs own i := by
  obtain ⟨spec, output, hl, rfl⟩ := startOutputInternal_ok hr
  have hrestart : restartInputId info config = i := by
    cases config with
    | udp => exact h.id
    | srt => exact hc
  exact h.insertTask hk (hl.inputId_eq.trans hrestart) (hl.config.trans hrestart)

theorem InputInfo.OwnsOutputs.startOutputs {env : Env} {outputs : List (Int × CreateOutputRequest)}
    {rt : Runtime} (h : info.OwnsOutputs own i)
    (ho : ∀ k config, (k, config) ∈ outputs → own k = i ∧ config.inputId = i) :
    (startOutputs env outputs info rt).1.OwnsOutputs own i := by
  refine startOutputs_keeps (P := fun input _ => input.OwnsOutputs own i)
    (fun k config input rt input' rt' hmem hinput hr => ?_) h
  obtain ⟨hk, hc⟩ := ho k config hmem
  exact hinput.startOutputInternal hk hc hr

theorem InputInfo.OwnsOutputs.restartStopped (h : info.OwnsOutputs own i) (env : Env)
    (rt : Runtime) : (restartStopped env info rt).1.OwnsOutputs own i := by
  have hdrained : InputInfo.OwnsOutputs own i { info with stoppedOutputs := ∅ } :=
    ⟨h.id, h.running, fun _ _ hc => absurd hc (by simp)⟩
  exact hdrained.startOutputs fun k config hm => h.stopped k config (HashMap.mem_toPairs.mp hm)

/-- The configurations that `stop_input` keeps are those of the running outputs. -/
theorem lookup_stopOutputs {outputs : List (Int × OutputInfo)} {rt : Runtime} {k : Int}
    {config : CreateOutputRequest} (h : (stopOutputs outputs rt).1.lookup k = some config) :
    ∃ o, (k, o) ∈ outputs ∧ o.config = config := by
  induction outputs generalizing rt with
  | nil => exact absurd h (by simp [stopOutputs])
  | cons output outputs ih =>
    obtain ⟨outputId, info⟩ := output
    unfold stopOutputs at h
    split at h
    · rcases HashMap.lookup_insert_eq_some.mp h with ⟨rfl, hc⟩ | ⟨_, h⟩
      · exact ⟨info, List.mem_cons_self, hc⟩
      · obtain ⟨o, ho, hc⟩ := ih h
        exact ⟨o, List.mem_cons_of_mem _ ho, hc⟩
    · obtain ⟨o, ho, hc⟩ := ih h
      exact ⟨o, List.mem_cons_of_mem _ ho, hc⟩

theorem InputInfo.OwnsOutputs.stopInputInfo (h : info.OwnsOutputs own i) (rt : Runtime) :
    (stopInputInfo info rt).1.OwnsOutputs own i := by
  refine ⟨h.id, fun _ _ ho => absurd ho (by simp [StreamGateway.stopInputInfo]),
    fun k config hc => ?_⟩
  rcases HashMap.lookup_extend_eq_some.mp hc with hc | ⟨_, hc⟩
  · obtain ⟨o, ho, rfl⟩ := lookup_stopOutputs hc
    obtain ⟨hk, _, hconfig⟩ := h.running k o (HashMap.mem_toPairs.mp ho)
    exact ⟨hk, hconfig⟩
  · exact h.stopped k config hc

theorem InputInfo.OwnsOutputs.recreateTask (h : info.OwnsOutputs own i) (plan : StartPlan)
    (rt : Runtime) : (recreateTask plan info rt).1.OwnsOutputs own i := by
  unfold StreamGateway.recreateTask
  split
  · exact ⟨h.id, h.running, h.stopped⟩
  · exact ⟨h.id, h.running, h.stopped⟩
  · exact h

end Entries

/-! ## The outputs of the load -/

section Load

variable {own : Int → Int} {i k : Int} {info info' : InputInfo}

theorem stoppedOutputConfig_inputId {row : OutputRow} {config : CreateOutputRequest}
    (h : stoppedOutputConfig i row = some config) : config.inputId = i := by
  unfold stoppedOutputConfig at h
  dsimp only at h
  split at h
  · obtain rfl := Option.some.inj h
    rfl
  split at h
  · obtain rfl := Option.some.inj h
    rfl
  split at h
  · obtain rfl := Option.some.inj h
    rfl
  · exact absurd h (by simp)

theorem recreateOutput_inputId {env : Env} {row : OutputRow} {rt rt' : Runtime}
    {output : OutputInfo} (hid : info.id = i)
    (h : recreateOutput env i info k row rt = .ok (some (output, rt'))) :
    output.inputId = i ∧ output.config.inputId = i := by
  rcases recreateOutput_some h with hr | ⟨config, hr⟩
  · obtain ⟨spec, hl⟩ := launch_createUdpOutput hr
    exact ⟨hl.inputId_eq.trans hid, hl.config.trans hid⟩
  · obtain ⟨rfl, _⟩ := Prod.mk.inj hr
    exact ⟨rfl, rfl⟩

theorem InputInfo.OwnsOutputs.loadOutputs {env : Env} {outputs : List (Int × OutputRow)}
    {rt : Runtime} (h : info.OwnsOutputs own i) (ho : ∀ k row, (k, row) ∈ outputs → own k = i) :
    (loadOutputs env i outputs info rt).2.1.OwnsOutputs own i := by
  refine loadOutputs_keeps (P := fun input _ => input.OwnsOutputs own i)
    (fun k row input rt input' rt' hmem hinput hload => ?_) h
  have hk := ho k row hmem
  cases hload with
  | skipped => exact hinput
  | stopped hc => exact hinput.insertStopped hk (stoppedOutputConfig_inputId hc)
  | running hr =>
    obtain ⟨hid, hconfig⟩ := recreateOutput_inputId hinput.id hr
    exact hinput.insertTask hk hid hconfig

end Load

/-! ## Rows -/

variable {own : Int → Int}

theorem OutputRow.NamesOwner.merged {k : Int} {row : OutputRow} (h : row.NamesOwner own k)
    {env : Env} {req : UpdateOutputRequest} {merged : CreateOutputRequest}
    (hm : mergedOutput env req row = .ok merged) : merged.inputId = own k := by
  unfold mergedOutput at hm
  split at hm
  · exact absurd hm (by simp)
  rename_i current hcurrent
  have hinput : current.inputId = own k := by
    unfold currentOutputConfig at hcurrent
    split at hcurrent
    · rename_i j hj
      split at hcurrent
      · exact absurd hcurrent (by simp)
      · rename_i config hread
        obtain rfl := Except.ok.inj hcurrent
        exact h.config j config hj hread
    · split at hcurrent
      · obtain rfl := Except.ok.inj hcurrent
        exact h.inputId
      · exact absurd hcurrent (by simp)
  split at hm
  · exact absurd hm (by simp)
  rename_i config hmerge
  split at hm
  · exact absurd hm (by simp)
  · obtain rfl := Except.ok.inj hm
    exact (mergeOutputConfig_same hmerge).2.trans hinput

/-- A row that holds the request it was made for names the input of the request. -/
theorem namesOwner_of_request {k : Int} {row : OutputRow} {req : CreateOutputRequest}
    (hrow : row.inputId = own k) (hjson : row.configJson = some (.obj req.toFields))
    (hreq : req.inputId = own k) : row.NamesOwner own k := by
  refine ⟨hrow, fun j config hj hread => ?_⟩
  obtain rfl := Option.some.inj (hjson.symm.trans hj)
  obtain rfl := Option.some.inj ((CreateOutputRequest.ofFields_toFields req).symm.trans hread)
  exact hreq

/-! ## Keys -/

/-- The input that the row of an output names. -/
def rowInput (w : World) (k : Int) : Option Int := (w.db.outputs.find k).map (·.inputId)

def lastOutputId (w : World) : Int := w.db.outputs.lastId

theorem rowInput_eq_some {w : World} {k i : Int} :
    rowInput w k = some i ↔ ∃ row, (k, row) ∈ w.db.outputs.rows ∧ row.inputId = i := by
  rw [rowInput, Option.map_eq_some_iff]
  constructor
  · rintro ⟨row, hrow, hi⟩
    exact ⟨row, Table.find_eq_some.mp hrow, hi⟩
  · rintro ⟨row, hrow, hi⟩
    exact ⟨row, Table.find_eq_some.mpr hrow, hi⟩

theorem rowInput_le (w : World) (k i : Int) (h : rowInput w k = some i) : k ≤ lastOutputId w := by
  obtain ⟨row, hrow, _⟩ := rowInput_eq_some.mp h
  exact w.db.outputs.le_lastId _ hrow

theorem Act.givesOnce {rely : Guarded World} {ops : Option Operation → Prop} {h : Option LockMode}
    {w w' : World} (ha : Act rely ops h w w') : Pool.GivesOnce rowInput lastOutputId w w' := by
  have hkeeps : (∀ k row', (k, row') ∈ w'.db.outputs.rows → k ≤ w.db.outputs.lastId →
      ∃ row, (k, row) ∈ w.db.outputs.rows ∧ row'.inputId = row.inputId) →
      ∀ k ≤ lastOutputId w, ∀ i, rowInput w' k = some i → rowInput w k = some i := by
    intro hrows k hk i hi
    obtain ⟨row', hrow', rfl⟩ := rowInput_eq_some.mp hi
    obtain ⟨row, hrow, heq⟩ := hrows k row' hrow' hk
    exact rowInput_eq_some.mpr ⟨row, hrow, heq.symm⟩
  rcases ha.outputRows with hthin | ⟨_, req, hins⟩ | ⟨_, env, i, k, req, merged, hrw⟩
  · refine ⟨Int.le_of_eq hthin.lastId.symm, hkeeps fun k row' hk _ => ?_⟩
    obtain ⟨row, hrow, heq⟩ := hthin.rows k row' hk
    refine ⟨row, hrow, ?_⟩
    rw [heq]
  · have hlast : w'.db.outputs.lastId = w.db.outputs.lastId + 1 := by
      rw [hins.row]
      rfl
    refine ⟨?_, hkeeps fun k row' hk hle => ?_⟩
    · show w.db.outputs.lastId ≤ w'.db.outputs.lastId
      omega
    · rw [hins.row] at hk
      rcases Table.mem_insert.mp hk with hk | hk
      · exact ⟨row', hk, rfl⟩
      · have hk' : k = w.db.outputs.lastId + 1 := congrArg Prod.fst hk
        omega
  · have hlast : w'.db.outputs.lastId = w.db.outputs.lastId := by
      rw [hrw.rows]
      rfl
    refine ⟨Int.le_of_eq hlast.symm, hkeeps fun k' row' hk _ => ?_⟩
    rw [hrw.rows] at hk
    obtain ⟨row, hrow, rfl⟩ := Table.mem_update hk
    refine ⟨row, hrow, ?_⟩
    split <;> rfl

theorem givesOnce_of_db {w w' : World} (h : w'.db = w.db) :
    Pool.GivesOnce rowInput lastOutputId w w' := by
  have hlast : lastOutputId w' = lastOutputId w := by rw [lastOutputId, h, lastOutputId]
  refine ⟨Int.le_of_eq hlast.symm, fun k _ i hi => ?_⟩
  rwa [rowInput, h] at hi

/-! ## Steps -/

/-- In between, the other calls keep to the inputs that the keys belong to. -/
def ownershipRely (own : Int → Int) : Guarded World :=
  fun _ w w' => w.Attributed own ∧ w'.Attributed own

instance (h : Option LockMode) : IsTrans World (ownershipRely own h) :=
  ⟨fun _ _ _ h₁ h₂ => ⟨h₁.1, h₂.2⟩⟩

theorem OutputMerged.inputId {env : Env} {k i : Int} {req : UpdateOutputRequest}
    {merged : CreateOutputRequest} {w : World}
    (h : OutputMerged (ownershipRely own) env k req i merged w) :
    own k = i ∧ merged.inputId = i := by
  obtain ⟨w₀, row, ⟨hw₀, _⟩, hrow, rfl, hmerged⟩ := h
  have hnames := hw₀.rows k row (Table.find_eq_some.mp hrow)
  exact ⟨hnames.inputId.symm, (hnames.merged hmerged).trans hnames.inputId.symm⟩

/-- The rows name their owners after an act, if the keys still mean the same. -/
theorem Act.namesOwner {ops : Option Operation → Prop} {h : Option LockMode} {w w' : World}
    (ha : Act (ownershipRely own) ops h w w') (hw : w.Attributed own)
    (hmeans : Pool.Means rowInput own w') :
    ∀ k row, (k, row) ∈ w'.db.outputs.rows → row.NamesOwner own k := by
  intro k row' hk
  have hinput : row'.inputId = own k :=
    (hmeans k _ (rowInput_eq_some.mpr ⟨row', hk, rfl⟩)).symm
  rcases ha.outputRows with hthin | ⟨_, req, hins⟩ | ⟨_, env, i, k₀, req, merged, hrw⟩
  · obtain ⟨row, hrow, heq⟩ := hthin.rows k row' hk
    have hnames := hw.rows k row hrow
    rw [heq]
    exact ⟨hnames.inputId, hnames.config⟩
  · rw [hins.row] at hk
    rcases Table.mem_insert.mp hk with hk | hk
    · exact hw.rows k row' hk
    · obtain ⟨rfl, rfl⟩ := Prod.mk.inj hk
      exact namesOwner_of_request hinput rfl hinput
  · rw [hrw.rows] at hk
    obtain ⟨row, hrow, heq⟩ := Table.mem_update hk
    by_cases hid : k = k₀
    · rw [if_pos hid] at heq
      subst heq hid
      obtain ⟨hown, hmerged⟩ := hrw.known.inputId
      exact namesOwner_of_request hinput rfl (hmerged.trans hown.symm)
    · rw [if_neg hid] at heq
      subst heq
      exact hw.rows k row' hrow

/-- The new output goes to the input of its row. -/
theorem each_installOutputSection {w : World} (h : w.Each (InputInfo.OwnsOutputs own)) (env : Env)
    (req : CreateOutputRequest) {i k : Int} (destination : String) (hk : own k = i) :
    (installOutputSection env req i k destination w).2.Each (InputInfo.OwnsOutputs own) := by
  unfold installOutputSection
  split
  · exact h
  rename_i input hinput
  split
  · exact h
  rename_i output rt' hspawn
  have hid := (h i input hinput).id
  obtain ⟨j, spec, hj, hl⟩ := spawnOutput_launch hspawn
  have hji : j = i := hj.elim id fun hj => hj.trans hid
  split
  · exact h.of_eq rfl
  rename_i target htarget
  rw [hl.inputId_eq, hji] at htarget
  refine h.insert rfl ?_
  rw [hl.inputId_eq, hl.outputId_eq, hji]
  exact (h i target htarget).insertTask hk (hl.inputId_eq.trans hji) (hl.config.trans hji)

theorem each_startOutputSection {w : World} (h : w.Each (InputInfo.OwnsOutputs own)) (env : Env)
    (i k : Int) : (startOutputSection env i k w).2.Each (InputInfo.OwnsOutputs own) := by
  unfold startOutputSection
  split
  · exact h
  rename_i info hi
  have hinfo := h i info hi
  split
  · exact h
  split
  · rename_i config hc
    obtain ⟨hk, hconfig⟩ := hinfo.stopped k config hc
    dsimp only
    split
    · rename_i info' rt' hstart
      exact h.insert rfl ((hinfo.eraseStopped k).startOutputInternal hk hconfig hstart)
    · exact h.insert rfl (hinfo.eraseStopped k)
  · split <;> exact h

theorem each_stopOutputSection {w : World} (h : w.Each (InputInfo.OwnsOutputs own)) (i k : Int) :
    (stopOutputSection i k w).2.Each (InputInfo.OwnsOutputs own) := by
  unfold stopOutputSection
  split
  · exact h
  rename_i info hi
  split
  · rename_i output ho
    obtain ⟨hk, _, hconfig⟩ := (h i info hi).running k output ho
    exact h.insert rfl (((h i info hi).eraseTask k).insertStopped hk hconfig)
  · split <;> exact h

theorem each_removeOutputSection {w : World} (h : w.Each (InputInfo.OwnsOutputs own))
    (i k : Int) : (removeOutputSection i k w).2.Each (InputInfo.OwnsOutputs own) := by
  unfold removeOutputSection
  split
  · exact h
  rename_i info hi
  split
  · exact h.insert rfl ((h i info hi).eraseTask k)
  · split
    · exact h.insert rfl ((h i info hi).eraseStopped k)
    · exact h

theorem each_stopInputSection {w : World} (h : w.Each (InputInfo.OwnsOutputs own)) (i : Int) :
    (stopInputSection i w).2.Each (InputInfo.OwnsOutputs own) := by
  unfold stopInputSection
  split
  · exact h
  rename_i info hi
  split
  · exact h
  · exact h.insert rfl ((h i info hi).stopInputInfo w.rt)

theorem InputInfo.OwnsOutputs.unpaused {i : Int} {info : InputInfo} (h : info.OwnsOutputs own i) :
    InputInfo.OwnsOutputs own i { info with pausedAnalysis := [] } :=
  ⟨h.id, h.running, h.stopped⟩

theorem each_restartSection {w : World} (h : w.Each (InputInfo.OwnsOutputs own)) (env : Env)
    (plan : StartPlan) : (restartSection env plan w).2.Each (InputInfo.OwnsOutputs own) := by
  unfold restartSection
  split
  · exact h
  · rename_i info hi
    have hinfo := (h plan.inputId info hi).recreateTask plan w.rt
    exact h.insert rfl (hinfo.restartStopped env _).unpaused

theorem each_sptsInstallSection {w : World} (h : w.Each (InputInfo.OwnsOutputs own)) (env : Env)
    (i : Int) (new : InputInfo) :
    (sptsInstallSection env i new w).2.Each (InputInfo.OwnsOutputs own) := by
  unfold sptsInstallSection
  split
  · exact h
  · rename_i info hi
    have hinfo := h i info hi
    have hnew : InputInfo.OwnsOutputs own i { info with
        taskHandle := new.taskHandle
        packetTx := new.packetTx
        status := .listening
        startedAt := some w.rt.clock } := ⟨hinfo.id, hinfo.running, hinfo.stopped⟩
    exact h.insert rfl (hnew.restartStopped env w.rt).unpaused

theorem each_applyProcessing {w : World} (h : w.Each (InputInfo.OwnsOutputs own)) :
    (applyProcessing w).2.Each (InputInfo.OwnsOutputs own) := by
  refine h.apply (fun i info _ _ _ hinfo => ⟨hinfo.id, hinfo.running, hinfo.stopped⟩) ?_
  intro i info k output _ _ _ hinfo ho
  obtain ⟨hk, hinput, hconfig⟩ := hinfo.running k output ho
  exact hinfo.insertTask hk hinput hconfig

theorem Act.ownsOutputs {ops : Option Operation → Prop} {h : Option LockMode} {w w' : World}
    (ha : Act (ownershipRely own) ops h w w') (hw : w.Each (InputInfo.OwnsOutputs own)) :
    w'.Each (InputInfo.OwnsOutputs own) := by
  cases ha with
  | quiet hs => exact hw.of_eq hs
  | launch _ _ _ hs => exact hw.of_eq hs
  | edit i info info' _ hi hs hsame => exact hw.insert hs ((hw i info hi).same hsame)
  | restart env plan => exact each_restartSection hw env plan
  | install env i new => exact each_sptsInstallSection hw env i new
  | stopInput i => exact each_stopInputSection hw i
  | startOutput env i k => exact each_startOutputSection hw env i k
  | stopOutput i k => exact each_stopOutputSection hw i k
  | setStopped env i k req merged _ hmerged =>
    obtain ⟨hk, hconfig⟩ := hmerged.inputId
    unfold setStoppedConfig
    split
    · exact hw
    · rename_i info hi
      exact hw.insert rfl ((hw i info hi).insertStopped hk hconfig)
  | removeInput i =>
    rcases removeInputSection_ok i w with hw' | ⟨_, _, _, hs, _⟩
    · rwa [hw']
    · exact hw.erase hs
  | removeOutput i k => exact each_removeOutputSection hw i k
  | insertInput called info _ hno => exact hw.insert rfl hno.owns
  | insertInputs loaded _ hno => exact hw.extend rfl fun i info hi => (hno i info hi).owns
  | installOutput env called req i k row destination _ hrely hrow hinput =>
    have hnames := hrely.1.rows k row (Table.find_eq_some.mp hrow)
    exact each_installOutputSection hw env req destination (hnames.inputId.symm.trans hinput)
  | loadGroup env i _ hrely =>
    unfold loadGroupSection
    split
    · exact hw
    · rename_i info hi
      refine hw.insert rfl ((hw i info hi).loadOutputs fun k row hk => ?_)
      obtain ⟨hk, hrow⟩ := List.mem_filter.mp hk
      exact (hrely.1.rows k row hk).inputId.symm.trans (of_decide_eq_true hrow)
  | receive => exact hw.of_eq (receive_streams _)
  | apply => exact each_applyProcessing hw
  | saveInput => exact hw.of_eq (query_streams _ _ _ _)
  | inputStatus => exact hw.of_eq (query_streams _ _ _ _)
  | updateInput => exact hw.of_eq (query_streams _ _ _ _)
  | deleteInput env i => exact hw.of_eq (quiet_deleteInputFromDb env i _).streams
  | saveOutput => exact hw.of_eq (quiet_saveOutputToDb _ _ _ _ _ _ _ _).streams
  | outputStatus => exact hw.of_eq (query_streams _ _ _ _)
  | updateOutput => exact hw.of_eq (query_streams _ _ _ _)
  | deleteOutput => exact hw.of_eq (query_streams _ _ _ _)

theorem TaskStep.attributed {w w' : World} (ho : TaskStep w w') (h : w.Attributed own) :
    w'.Attributed own := by
  refine ⟨h.entries.of_eq ho.streams, ?_⟩
  rw [ho.db]
  exact h.rows

theorem attributed_step {ops : Option Operation → Prop} {h : Option LockMode} {w w' : World}
    (hstep : Act (ownershipRely own) ops h w w' ∨ TaskStep w w') (hw : w.Attributed own)
    (hmeans : Pool.Means rowInput own w') : w'.Attributed own := by
  rcases hstep with ha | ho
  · exact ⟨ha.ownsOutputs hw.entries, ha.namesOwner hw hmeans⟩
  · exact ho.attributed hw

/-- When every key has one meaning, every call keeps to it. -/
theorem attributed_fits : Pool.Fits (World.Attributed own) (ownershipRely own)
    (Act (ownershipRely own) fun _ => True) GatewayCall TaskStep
    (fun _ b => Pool.Means rowInput own b.shared) where
  refl := fun h => ⟨h, h⟩
  calls := fun hp _ => hp.acts _
  keeps := fun hi hstep hmeans => attributed_step hstep hi hmeans
  relies := fun _ hi hstep hmeans =>
    ⟨hi, attributed_step (hstep.imp_left fun h => h.2) hi hmeans⟩

/-- Without `create_output` no row gets a new key, so the keys keep their meaning. -/
theorem Act.means {ops : Option Operation → Prop} {h : Option LockMode} {w w' : World}
    (hcreate : ∀ req, ¬ ops (some (.createOutput req))) (ha : Act (ownershipRely own) ops h w w')
    (hw : w.Attributed own) : Pool.Means rowInput own w' := by
  intro k i hi
  obtain ⟨row', hrow', rfl⟩ := rowInput_eq_some.mp hi
  rcases ha.outputRows with hthin | ⟨_, req, hins⟩ | ⟨_, env, i, k₀, req, merged, hrw⟩
  · obtain ⟨row, hrow, heq⟩ := hthin.rows k row' hrow'
    rw [heq]
    exact (hw.rows k row hrow).inputId.symm
  · obtain ⟨called, hcalled⟩ := hins.called
    exact absurd hcalled (hcreate called)
  · rw [hrw.rows] at hrow'
    obtain ⟨row, hrow, rfl⟩ := Table.mem_update hrow'
    have hinput := (hw.rows k row hrow).inputId.symm
    split
    · exact hinput
    · exact hinput

/-! ## Runs -/

/-- The databases that the gateway leaves, from an empty one on, over any number of restarts. -/
inductive StoredDatabase : Database → Prop
  | empty : StoredDatabase emptyDatabase
  | left {env : Env} {db : Database} {p : Pool World} : StoredDatabase db →
      Pool.Runs GatewayCall TaskStep (fun _ _ => True) (bootPool env db) p →
      StoredDatabase p.shared.db

/-- The configurations in the rows name the inputs that the rows name. -/
def Database.Consistent (db : Database) : Prop :=
  ∀ k row j config, (k, row) ∈ db.outputs.rows → row.configJson = some j →
    j.read CreateOutputRequest.ofFields = some config → config.inputId = row.inputId

theorem consistent_empty : emptyDatabase.Consistent :=
  fun _ _ _ _ hk => absurd hk List.not_mem_nil

/-- The other calls may do anything. -/
def anyRely : Guarded World := fun _ _ _ => True

instance (h : Option LockMode) : IsTrans World (anyRely h) := ⟨fun _ _ _ _ _ => trivial⟩

/-- Over a run from the load, each key belongs to one input. -/
theorem runs_attributed {env : Env} {db : Database} {p : Pool World} (hdb : db.Consistent)
    (hruns : Pool.Runs GatewayCall TaskStep (fun _ _ => True) (bootPool env db) p) :
    ∃ own, p.shared.Attributed own := by
  have hfits : Pool.Fits (fun _ => True) anyRely (Act anyRely fun _ => True) GatewayCall
      TaskStep (fun _ _ => True) :=
    ⟨fun _ => trivial, fun hp _ => hp.acts _, fun _ _ _ => trivial, fun _ _ _ _ => trivial⟩
  have hmoves := (behaving_bootPool (fun _ => True) env db trivial trivial).moves hfits hruns
  obtain ⟨own, hboot, hmeans⟩ := Pool.exists_means rowInput_le hmoves fun a b hc => by
    rcases hc.2 with heq | ⟨h, ha⟩ | ho
    · exact givesOnce_of_db (by rw [heq])
    · exact ha.givesOnce
    · exact givesOnce_of_db ho.db
  have hstart : (World.boot db).Attributed own := by
    refine ⟨fun i info hi => absurd hi (by simp [World.boot]), fun k row hk => ?_⟩
    have hinput : row.inputId = own k := (hboot k _ (rowInput_eq_some.mpr ⟨row, hk, rfl⟩)).symm
    exact ⟨hinput, fun j config hj hread => (hdb k row j config hk hj hread).trans hinput⟩
  have hunder : Pool.RunsUnder GatewayCall TaskStep
      (fun _ b => Pool.Means rowInput own b.shared) (bootPool env db) p :=
    hmeans.mono fun _ _ h => h.2
  exact ⟨own, ((behaving_bootPool _ env db trivial hstart).runs attributed_fits hunder).inv⟩

theorem StoredDatabase.consistent {db : Database} (h : StoredDatabase db) : db.Consistent := by
  induction h with
  | empty => exact consistent_empty
  | left _ hruns ih =>
    obtain ⟨own, hown⟩ := runs_attributed ih hruns
    intro k row j config hk hj hread
    have hnames := hown.rows k row hk
    exact (hnames.config j config hj hread).trans hnames.inputId.symm

/-- Each output is under one input, and its record, its configuration and its row, as long as
there is one, name that input. -/
structure World.OutputsOwned (w : World) : Prop where
  unique : ∀ k i j info info', w.streams.lookup i = some info → w.streams.lookup j = some info' →
    info.HasOutput k → info'.HasOutput k → i = j
  id : ∀ i info, w.streams.lookup i = some info → info.id = i
  running : ∀ i info k o, w.streams.lookup i = some info → info.outputTasks.lookup k = some o →
    o.inputId = info.id ∧ o.config.inputId = info.id
  stopped : ∀ i info k config, w.streams.lookup i = some info →
    info.stoppedOutputs.lookup k = some config → config.inputId = info.id
  row : ∀ i info k row, w.streams.lookup i = some info → info.HasOutput k →
    w.db.outputs.find k = some row → row.inputId = info.id

theorem World.Attributed.outputsOwned {own : Int → Int} {w : World} (h : w.Attributed own) :
    w.OutputsOwned := by
  have hown : ∀ k i info, w.streams.lookup i = some info → info.HasOutput k → own k = i :=
    fun k i info hi hk => (h.entries i info hi).owner hk
  have hid : ∀ i info, w.streams.lookup i = some info → info.id = i :=
    fun i info hi => (h.entries i info hi).id
  refine ⟨?_, hid, ?_, ?_, ?_⟩
  · intro k i j info info' hi hj hk hk'
    exact (hown k i info hi hk).symm.trans (hown k j info' hj hk')
  · intro i info k o hi ho
    obtain ⟨_, hinput, hconfig⟩ := (h.entries i info hi).running k o ho
    rw [hid i info hi]
    exact ⟨hinput, hconfig⟩
  · intro i info k config hi hc
    rw [hid i info hi]
    exact ((h.entries i info hi).stopped k config hc).2
  · intro i info k row hi hk hrow
    rw [hid i info hi, ← hown k i info hi hk]
    exact (h.rows k row (Table.find_eq_some.mp hrow)).inputId

/-- In every state of every run from a stored database, each output belongs to one input. -/
theorem stored_outputsOwned {env : Env} {db : Database} {p : Pool World} (hdb : StoredDatabase db)
    (hruns : Pool.Runs GatewayCall TaskStep (fun _ _ => True) (bootPool env db) p) :
    p.shared.OutputsOwned := by
  obtain ⟨own, hown⟩ := runs_attributed hdb.consistent hruns
  exact hown.outputsOwned

/-- Two outputs of one input, of which the second is stopped. -/
def halfServingWorld : World :=
  (World.afterLoad localEnv emptyDatabase [.createInput (udpInputRequest 5000),
    .createOutput (udpOutputRequest "127.0.0.1"), .createOutput (udpOutputRequest "127.0.0.2"),
    .stopOutputEndpoint 2]).get (by decide +kernel)

theorem runs_halfServingWorld : ∃ threads, (∀ t ∈ threads, t.held = none) ∧
    Pool.Runs GatewayCall TaskStep (fun _ _ => True) (bootPool localEnv emptyDatabase)
      ⟨halfServingWorld, threads⟩ :=
  runs_afterLoad (Option.some_get _).symm

theorem stored_halfServingWorld : StoredDatabase halfServingWorld.db := by
  obtain ⟨threads, _, hruns⟩ := runs_halfServingWorld
  exact .left .empty hruns

/-- After a restart, the stopped output is renamed and so started. -/
theorem restarted_outputsOwned :
    ∃ p, Pool.Runs GatewayCall TaskStep (fun _ _ => True)
      (bootPool localEnv halfServingWorld.db) p ∧
      (p.shared.streams.lookup 1).map (fun info => info.outputTasks.keys) = some [2, 1] ∧
      p.shared.OutputsOwned := by
  have hview : (World.afterLoad localEnv halfServingWorld.db
      [.updateOutput 2 (outputUpdate none)]).bind (fun w =>
        (w.streams.lookup 1).map fun info => info.outputTasks.keys) = some [2, 1] := by
    decide +kernel
  obtain ⟨w, hw, hview⟩ := Option.bind_eq_some_iff.mp hview
  obtain ⟨threads, _, hruns⟩ := runs_afterLoad hw
  exact ⟨_, hruns, hview, stored_outputsOwned stored_halfServingWorld hruns⟩

end StreamGateway
