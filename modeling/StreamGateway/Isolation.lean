import StreamGateway.CallEnds
import StreamGateway.InputIds
import StreamGateway.OperationDeeds
import StreamGateway.Wiring

/-!
# Calls keep to their streams

Each call is followed from lock to lock for the entries, the rows and the tasks that it changes.
Whatever the other calls do in between, a call changes those of one input only: the one that it
names, the one that its output belongs to, or the one that it makes. All steps keep the streams
wired.
-/
namespace StreamGateway

open Prog

variable {α β : Type} {w₀ : World} {K : Int → Prop} {held : Option LockMode}

/-- What a call finds between two of its steps: the inputs outside `K` were made before, and their
outputs have the rows that they had at first, in `w₀`. -/
structure SettledFrom (w₀ : World) (K : Int → Prop) (w : World) : Prop where
  wired : w.Wired
  attributed : ∃ own, w.Attributed own
  given : ∀ i, ¬ K i → i ≤ w.db.inputs.lastId
  rows : w₀.db.KeepsTo K w.db

def settledRely (w₀ : World) (K : Int → Prop) : Guarded World :=
  fun _ w w' => w.Grows w' ∧ SettledFrom w₀ K w'

instance (h : Option LockMode) : IsTrans World (settledRely w₀ K h) :=
  ⟨fun _ _ _ h₁ h₂ => ⟨h₁.1.trans h₂.1, h₂.2⟩⟩

/-- A step of a call, or one of the processor, which may change any status. -/
def keepsGuar (K : Int → Prop) : Guarded World :=
  fun _ w w' => KeepsTo K w w' ∨ w' = (applyProcessing w).2

/-- The call keeps to the inputs in `K`. -/
abbrev Keeps (w₀ : World) (K : Int → Prop) (p : Prog World α) (held : Option LockMode)
    (w : World) (Q : α → Option LockMode → World → Prop := fun _ _ _ => True) : Prop :=
  p.Behaves (settledRely w₀ K) (keepsGuar K) held w Q

theorem Keeps.andThen {p : Prog World α} {f : α → Prog World β} {w : World}
    {Q : β → Option LockMode → World → Prop} (h : Keeps w₀ K p held w)
    (hf : ∀ r held' w', Keeps w₀ K (f r) held' w' Q) : Keeps w₀ K (p >>= f) held w Q :=
  Behaves.bind h fun r held' w' _ => hf r held' w'

theorem keepsGuar.grows {w w' : World} (h : keepsGuar K held w w') : w.Grows w' := by
  rcases h with h | rfl
  · exact h.runtime.grows
  · exact grows_applyProcessing w

/-- What is wired stays wired until the call ends. -/
theorem Keeps.grows {p : Prog World α} {w : World} {Q : α → Option LockMode → World → Prop}
    (h : Keeps w₀ K p held w Q) :
    Keeps w₀ K p held w fun r held' w' => Q r held' w' ∧ w.Grows w' := by
  induction p generalizing held w with
  | ret r => exact ⟨h, .of_eq rfl⟩
  | acquire mode rest ih =>
    exact fun s hs => Behaves.weaken (ih (h s hs)) fun _ _ _ hq => ⟨hq.1, hs.1.trans hq.2⟩
  | release rest ih =>
    exact fun s hs => Behaves.weaken (ih (h s hs)) fun _ _ _ hq => ⟨hq.1, hs.1.trans hq.2⟩
  | step update rest ih =>
    intro s hs
    obtain ⟨hguar, hrest⟩ := h s hs
    exact ⟨hguar, Behaves.weaken (ih s hrest)
      fun _ _ _ hq => ⟨hq.1, (hs.1.trans hguar.grows).trans hq.2⟩⟩

theorem keeps_ret {r : α} {w : World} : Keeps w₀ K (.ret r : Prog World α) held w := trivial

theorem keeps_release {p : Prog World α} {w : World}
    (h : ∀ held w, Keeps w₀ K p held w) : Keeps w₀ K (.release p) held w :=
  fun w' _ => h none w'

theorem keeps_acquire {mode : LockMode} {p : Prog World α} {w : World}
    (h : ∀ held w, Keeps w₀ K p held w) : Keeps w₀ K (.acquire mode p) held w :=
  fun w' _ => h (some mode) w'

theorem keeps_atomic {f : World → α × World} {w : World}
    (hf : ∀ w : World, SettledFrom w₀ K w → KeepsTo K w (f w).2) : Keeps w₀ K (atomic f) held w :=
  Behaves.atomic fun w' hw => ⟨.inl (hf w' hw.2), trivial⟩

theorem keeps_locked {mode : LockMode} {f : World → α × World} {w : World}
    (hf : ∀ w : World, SettledFrom w₀ K w → KeepsTo K w (f w).2) :
    Keeps w₀ K (locked mode f) held w :=
  Behaves.locked fun _ w' _ hw => ⟨.inl (hf w' hw.2), fun _ _ => trivial⟩

/-- The step gives something that is wired, and that stays so. -/
theorem keeps_atomic_wired {f : World → α × World} {w : World} {P : Runtime → α → Prop}
    (hf : ∀ w : World, SettledFrom w₀ K w → KeepsTo K w (f w).2 ∧ P (f w).2.rt (f w).1) :
    Keeps w₀ K (atomic f) held w fun r _ w' => P w'.rt r :=
  Behaves.atomic fun w' hw => ⟨.inl (hf w' hw.2).1, (hf w' hw.2).2⟩

theorem keeps_locked_wired {mode : LockMode} {f : World → α × World} {w : World}
    {P : Runtime → α → Prop} (hP : ∀ {rt rt' r}, Grows rt rt' → P rt r → P rt' r)
    (hf : ∀ w : World, SettledFrom w₀ K w → KeepsTo K w (f w).2 ∧ P (f w).2.rt (f w).1) :
    Keeps w₀ K (locked mode f) held w fun r _ w' => P w'.rt r :=
  Behaves.locked fun _ w' _ hw =>
    ⟨.inl (hf w' hw.2).1, fun _ hw' => hP hw'.1 (hf w' hw.2).2⟩

theorem keepsTo_query {env : Env} {q : Query} {f : Database → α × Database} {w : World}
    (hw : w.Wired) (hf : w.db.KeepsTo K (f w.db).2) : KeepsTo K w (query env q f w).2 :=
  .of_rows hw (query_streams env q f w) (query_rt env q f w)
    (query_db (P := fun db => w.db.KeepsTo K db) (.of_eq rfl) hf)

theorem keeps_select (env : Env) (q : Query) (f : Database → α) (w : World) :
    Keeps w₀ K (atomic (select env q f)) held w :=
  keeps_atomic fun _ hw => keepsTo_query hw.wired (.of_eq rfl)

theorem keeps_inputStatus (env : Env) {inputId : Int} (hK : K inputId) (status : String)
    (w : World) : Keeps w₀ K (atomic (updateInputStatusInDb env inputId status)) held w :=
  keeps_atomic fun w hw => keepsTo_query hw.wired (w.db.keepsTo_updateInput _ hK)

theorem keeps_updateInputInDb (env : Env) {inputId : Int} (hK : K inputId) (name : Option String)
    (configJson : Json) (w : World) :
    Keeps w₀ K (atomic (updateInputInDb env inputId name configJson)) held w :=
  keeps_atomic fun w hw => keepsTo_query hw.wired (w.db.keepsTo_updateInput _ hK)

/-- The output is not one of an input outside `K`. -/
def OutputIn (w₀ : World) (K : Int → Prop) (outputId : Int) : Prop :=
  ∀ i, rowInput w₀ outputId = some i → K i

/-- In all states, the row of the output is one of an input in `K`. -/
theorem SettledFrom.row {w : World} (hw : SettledFrom w₀ K w) {outputId : Int}
    (hK : OutputIn w₀ K outputId) (row : OutputRow)
    (hrow : (outputId, row) ∈ w.db.outputs.rows) : K row.inputId := by
  by_contra hout
  have hmem : (outputId, row) ∈ w.db.outputsOf row.inputId :=
    List.mem_filter.mpr ⟨hrow, by simp⟩
  rw [hw.rows.outputs _ hout] at hmem
  exact hout (hK _ (rowInput_eq_some.mpr ⟨row, List.mem_of_mem_filter hmem, rfl⟩))

/-- An output that is found under an input in `K` is one of them. -/
theorem SettledFrom.outputIn {w : World} (hw : SettledFrom w₀ K w) {inputId outputId : Int}
    (hK : K inputId) {info : InputInfo} (hi : w.streams.lookup inputId = some info)
    (hk : info.HasOutput outputId) : OutputIn w₀ K outputId := by
  intro j hj
  by_contra hout
  obtain ⟨row, hrow, rfl⟩ := rowInput_eq_some.mp hj
  have hmem : (outputId, row) ∈ w₀.db.outputsOf row.inputId :=
    List.mem_filter.mpr ⟨hrow, by simp⟩
  rw [← hw.rows.outputs _ hout] at hmem
  obtain ⟨own, hown⟩ := hw.attributed
  have hinput := (hown.rows outputId row (List.mem_of_mem_filter hmem)).inputId
  rw [(hown.entries inputId info hi).owner hk] at hinput
  exact hout (hinput ▸ hK)

theorem keeps_outputStatus (env : Env) {outputId : Int} (hK : OutputIn w₀ K outputId)
    (status : String) (w : World) :
    Keeps w₀ K (atomic (updateOutputStatusInDb env outputId status)) held w :=
  keeps_atomic fun w hw =>
    keepsTo_query hw.wired (w.db.keepsTo_updateOutput (fun _ => rfl) (hw.row hK))

theorem keeps_updateOutputInDb (env : Env) {outputId : Int} (hK : OutputIn w₀ K outputId)
    (name : Option String) (destination : String) (configJson : Option Json)
    (listenPort : Option UInt16) (w : World) :
    Keeps w₀ K (atomic (updateOutputInDb env outputId name destination configJson listenPort))
      held w :=
  keeps_atomic fun w hw =>
    keepsTo_query hw.wired (w.db.keepsTo_updateOutput (fun _ => rfl) (hw.row hK))

theorem keeps_deleteOutputFromDb (env : Env) {outputId : Int} (hK : OutputIn w₀ K outputId)
    (w : World) : Keeps w₀ K (atomic (deleteOutputFromDb env outputId)) held w := by
  refine keeps_atomic fun w hw => keepsTo_query hw.wired (w.db.keepsTo_deleteOutputs ?_)
  intro k row hrow hdel
  obtain rfl : k = outputId := by simpa using hdel
  exact hw.row hK row hrow

theorem keeps_saveOutputToDb (env : Env) (name : Option String) {inputId : Int} (hK : K inputId)
    (kind destination : String) (configJson : Option Json) (listenPort : Option UInt16)
    (w : World) : Keeps w₀ K (atomic (saveOutputToDb env name inputId kind destination configJson
      listenPort)) held w := by
  refine keeps_atomic fun w hw => ?_
  unfold saveOutputToDb
  split
  · exact .refl hw.wired
  · exact keepsTo_query hw.wired (w.db.keepsTo_insertOutput hK)

theorem keeps_deleteInputFromDb (env : Env) {inputId : Int} (hK : K inputId) (w : World) :
    Keeps w₀ K (atomic (deleteInputFromDb env inputId)) held w := by
  refine keeps_atomic fun w hw => .of_rows hw.wired (quiet_deleteInputFromDb env inputId w).streams
    (deleteInputFromDb_rt env inputId w) ?_
  rcases deleteInputFromDb_db_cases env inputId w with hdb | ⟨hinputs, houtputs⟩
  · exact .of_eq hdb
  · refine ⟨fun i hi => ?_, fun i hi => ?_⟩
    · rcases hinputs with hinputs | hinputs
      · rw [hinputs]
      · have hne : i ≠ inputId := fun heq => hi (heq ▸ hK)
        rw [hinputs, Table.find_delete, if_neg hne]
    · have hdeleted := w.db.keepsTo_deleteOutputs (K := K)
        (p := fun _ row => decide (row.inputId = inputId)) fun k row _ hdel => by
          obtain rfl : row.inputId = inputId := by simpa using hdel
          exact hK
      rw [Database.outputsOf, houtputs]
      exact hdeleted.outputs i hi

theorem keeps_read {mode : LockMode} {f : World → α} (w : World) :
    Keeps w₀ K (locked mode fun w => (f w, w)) held w :=
  keeps_locked fun _ hw => .refl hw.wired

theorem keeps_looks {p : Prog World α} (hp : Looks p) (w : World) : Keeps w₀ K p held w := by
  induction p generalizing w with
  | ret r => trivial
  | acquire mode rest => exact absurd hp id
  | release rest => exact absurd hp id
  | step update rest ih =>
    intro w' hw
    obtain ⟨hsame, hrest⟩ := hp w'
    rw [hsame]
    exact ⟨.inl (.refl hw.2.wired), ih w' hrest w'⟩

/-! ## Analyses -/

theorem keeps_startAnalysis {env : Env} {inputId : Int} (hK : K inputId)
    (analysisType : AnalysisType) (timeoutMinutes : Option UInt64) (w : World) :
    Keeps w₀ K (startAnalysis env inputId analysisType timeoutMinutes) held w := by
  refine Keeps.andThen (keeps_atomic fun w hw => keepsTo_newAnalysisId hw.wired)
    fun analysisId held w => ?_
  refine Behaves.bind (keeps_locked_wired (P := fun rt (r : Except String ChannelId) =>
      ∀ rx, r = .ok rx → rt.Feeds inputId rx) (fun hg hrx rx hr => hg.feeds (hrx rx hr))
    fun w hw => ⟨.refl hw.wired, fun rx hr => ?_⟩) fun r held w hr => ?_
  · unfold subscribeAnalysis at hr
    split at hr
    · exact absurd hr (by simp)
    split at hr
    · exact absurd hr (by simp)
    · rename_i info hi _
      obtain rfl := Except.ok.inj hr
      exact (hw.wired.entries inputId info hi).feeds
  cases r with
  | error e => exact keeps_ret
  | ok rx =>
    refine Behaves.bind (Q := fun r _ _ => ∀ a, r = .ok a →
        a.taskHandle.spec.owner.inputId = inputId)
      (Behaves.atomic fun w' hw => ⟨.inl (keepsTo_spawnAnalysis hw.2.wired env hK
        (hw.1.feeds (hr rx rfl)) analysisId analysisType timeoutMinutes), fun a ha => ?_⟩)
      fun r held w hr => ?_
    · rcases spawnAnalysis_ok env inputId analysisId analysisType timeoutMinutes rx w' with
        ⟨_, _, hs⟩ | ⟨timeout, _, hs⟩
      · rw [hs] at ha
        exact absurd ha (by simp)
      · rw [hs] at ha
        obtain rfl := Except.ok.inj ha
        rfl
    cases r with
    | error e => exact keeps_ret
    | ok a => exact keeps_locked fun w hw => keepsTo_insertAnalysis hw.wired hK (hr a rfl)

theorem keeps_restartPaused {env : Env} {inputId : Int} (hK : K inputId)
    (paused : List AnalysisType) (w : World) :
    Keeps w₀ K (restartPaused env inputId paused) held w := by
  induction paused generalizing held w with
  | nil => exact keeps_ret
  | cons analysisType rest ih =>
    exact Keeps.andThen (keeps_startAnalysis hK analysisType none w) fun _ _ w => ih w

theorem keeps_restartPausedHeld {env : Env} {inputId : Int} (hK : K inputId)
    (paused : List AnalysisType) (w : World) :
    Keeps w₀ K (restartPausedHeld env inputId paused) held w := by
  induction paused generalizing held w with
  | nil => exact keeps_ret
  | cons analysisType rest ih =>
    refine Keeps.andThen (keeps_startAnalysis hK analysisType none w) fun r held w => ?_
    cases r with
    | error e =>
      exact Keeps.andThen (keeps_atomic fun w hw => keepsTo_pauseAgain hw.wired hK analysisType)
        fun _ _ w => ih w
    | ok _ => exact ih w

/-! ## Starting and stopping -/

theorem keeps_startSpts (env : Env) {plan : StartPlan} (hK : K plan.inputId)
    (sourceInputId : Int) (programNumber : UInt16) (fillWithNulls : Option Bool) (w : World) :
    Keeps w₀ K (startSpts env plan sourceInputId programNumber fillWithNulls) held w := by
  refine Keeps.andThen (keeps_read w) fun r held w => ?_
  cases r with
  | error e => exact keeps_ret
  | ok _ =>
  refine Keeps.andThen (keeps_read w) fun r held w => ?_
  cases r with
  | error e => exact keeps_ret
  | ok _ =>
  refine Behaves.bind (keeps_locked_wired (P := fun rt (r : Except String InputInfo) =>
      ∀ new, r = .ok new → new.Wired rt plan.inputId)
    (fun hg hnew new hr => (hnew new hr).grows hg) fun w hw => ?_) fun r held w hr => ?_
  · exact keepsTo_sptsSpawnSection hw.wired hK sourceInputId programNumber fillWithNulls
  cases r with
  | error e => exact keeps_ret
  | ok new =>
  refine Keeps.andThen (Behaves.locked fun w₁ w₂ h₁ h₂ => ⟨.inl ?_, fun _ _ => trivial⟩)
    fun r held w => ?_
  · obtain ⟨own, hown⟩ := h₂.2.attributed
    exact keepsTo_sptsInstallSection h₂.2.wired hown.entries env hK
      ((hr new rfl).grows (h₁.1.trans h₂.1))
  cases r with
  | error e => exact keeps_ret
  | ok paused => exact Keeps.andThen (keeps_restartPaused hK paused w) fun _ _ _ => keeps_ret

theorem keeps_startBase (env : Env) {plan : StartPlan} (hK : K plan.inputId) (w : World) :
    Keeps w₀ K (startBase env plan) held w := by
  refine keeps_acquire fun held w => Keeps.andThen (keeps_atomic fun w hw => ?_) fun r held w => ?_
  · obtain ⟨own, hown⟩ := hw.attributed
    exact keepsTo_restartSection hw.wired hown.entries env hK
  cases r with
  | error e => exact keeps_release fun _ _ => keeps_ret
  | ok paused =>
    exact Keeps.andThen (keeps_restartPausedHeld hK paused w) fun _ _ _ =>
      keeps_release fun _ _ => keeps_ret

theorem keeps_stateTxOrGlobal (stateTx : Option StateChangeSender) (w : World) :
    Keeps w₀ K (stateTxOrGlobal stateTx) held w := by
  unfold stateTxOrGlobal
  split
  · exact keeps_ret
  · exact keeps_atomic fun w hw => .refl hw.wired

/-- The id in the entry is the one that the entry is found under. -/
theorem keeps_startInput (env : Env) {inputId : Int} (hK : K inputId) (w : World) :
    Keeps w₀ K (startInput env inputId) held w := by
  refine Behaves.bind (keeps_locked_wired (P := fun _ (r : Except String StartPlan) =>
      ∀ plan, r = .ok plan → plan.inputId = inputId) (fun _ hplan => hplan)
    fun w hw => ⟨.refl hw.wired, fun plan hr => ?_⟩) fun r held w hr => ?_
  · unfold planStart at hr
    split at hr
    · exact absurd hr (by simp)
    split at hr
    · exact absurd hr (by simp)
    · rename_i info hi _
      obtain rfl := Except.ok.inj hr
      exact (hw.wired.entries inputId info hi).id
  cases r with
  | error e => exact keeps_ret
  | ok plan =>
  obtain rfl := hr plan rfl
  refine Keeps.andThen (keeps_stateTxOrGlobal plan.stateTx w) fun stateTx held w => ?_
  cases hc : plan.config with
  | spts sourceInputId programNumber fillWithNulls name =>
    exact @keeps_startSpts _ _ _ env { plan with stateTx := stateTx, config := _ } hK sourceInputId
      programNumber fillWithNulls w
  | udp => exact @keeps_startBase _ _ _ env { plan with stateTx := stateTx, config := _ } hK w
  | srt => exact @keeps_startBase _ _ _ env { plan with stateTx := stateTx, config := _ } hK w

theorem keeps_stopInput {inputId : Int} (hK : K inputId) (w : World) :
    Keeps w₀ K (stopInput inputId) held w :=
  keeps_locked fun _ hw => keepsTo_stopInputSection hw.wired hK

theorem keeps_startOutput (env : Env) {inputId : Int} (hK : K inputId) (outputId : Int)
    (w : World) : Keeps w₀ K (startOutput env inputId outputId) held w := by
  refine keeps_locked fun w hw => ?_
  obtain ⟨own, hown⟩ := hw.attributed
  exact keepsTo_startOutputSection hw.wired hown.entries env hK outputId

theorem keeps_stopOutput {inputId : Int} (hK : K inputId) (outputId : Int) (w : World) :
    Keeps w₀ K (stopOutput inputId outputId) held w :=
  keeps_locked fun _ hw => keepsTo_stopOutputSection hw.wired hK outputId

/-! ## Creating, updating and deleting inputs -/

theorem keeps_spawnInput (req : CreateInputRequest) {id : Int} (hK : K id)
    (name : Option String) (w : World) :
    Keeps w₀ K (spawnInput req id name) held w fun r _ w' =>
      ∀ info, r = .ok info → info.Wired w'.rt id := by
  cases req with
  | udp =>
    refine Behaves.bind (keeps_atomic_wired (P := fun rt (info : InputInfo) => info.Wired rt id)
      fun w hw => keepsTo_spawnUdpSection hw.wired hK _ _ _ _ name) fun info held w hinfo => ?_
    refine Behaves.ret fun info' hr => ?_
    obtain rfl := Except.ok.inj hr
    exact hinfo
  | srt =>
    refine Behaves.bind (keeps_atomic_wired (P := fun rt (info : InputInfo) => info.Wired rt id)
      fun w hw => keepsTo_spawnSrtSection hw.wired hK _ _ name) fun info held w hinfo => ?_
    refine Behaves.bind (Q := fun _ _ (w : World) => info.Wired w.rt id)
      (Behaves.atomic fun w' hw => ⟨.inl (.refl hw.2.wired),
        show info.Wired w'.rt id from hinfo.grows hw.1⟩)
      fun stateTx held w hinfo => Behaves.ret fun info' hr => ?_
    obtain rfl := Except.ok.inj hr
    exact hinfo.of_same rfl rfl rfl rfl rfl
  | spts sourceInputId programNumber fillWithNulls reqName =>
    exact keeps_locked_wired (P := fun rt (r : Except HttpError InputInfo) =>
        ∀ info, r = .ok info → info.Wired rt id)
      (fun hg hinfo info hr => (hinfo info hr).grows hg) fun w hw =>
        keepsTo_spawnSptsSection hw.wired hK sourceInputId programNumber fillWithNulls name

theorem keeps_openIdle {id : Int} (name : Option String) (status : StreamStatus)
    (config : CreateInputRequest) (errorMessage : Option String) (w : World) :
    Keeps w₀ K (atomic (openIdle id name status config errorMessage)) held w fun info _ w' =>
      info.Wired w'.rt id :=
  keeps_atomic_wired (P := fun rt (info : InputInfo) => info.Wired rt id) fun _ hw =>
    ⟨keepsTo_openChannel hw.wired, wired_idleInput hw.wired id name status config none errorMessage⟩

theorem keeps_insertInput {id : Int} (hK : K id) {info : InputInfo} {w : World}
    (hinfo : info.Wired w.rt id) : Keeps w₀ K (atomic (insertInput info)) held w :=
  Behaves.atomic fun _ hw => ⟨.inl (keepsTo_insertInput hw.2.wired (hinfo.grows hw.1) hK), trivial⟩

theorem keeps_assignInputPort (env : Env) (req : CreateInputRequest) (w : World) :
    Keeps w₀ K (assignInputPort env req) held w := by
  unfold assignInputPort
  split
  · refine Keeps.andThen (keeps_looks (looks_findAvailablePort env) w) fun r held w => ?_
    cases r <;> exact keeps_ret
  · exact keeps_ret

/-- The input that is made is none of those that were made before. -/
theorem keeps_createInput (env : Env) (req : CreateInputRequest) (w : World) :
    Keeps w₀ K (createInput env req) held w := by
  unfold createInput
  split
  · exact keeps_ret
  refine Keeps.andThen (keeps_assignInputPort env req w) fun r held w => ?_
  rcases r with r | ⟨finalReq, assignedPort⟩
  · exact keeps_ret
  refine Behaves.bind (Q := fun r _ _ => ∀ id, r = .ok id → K id) (Behaves.atomic fun w' hw =>
    ⟨.inl (keepsTo_query hw.2.wired (w'.db.keepsTo_insertInput _ ?_)), fun id hr => ?_⟩)
    fun r held w hr => ?_
  · by_contra hid
    have := hw.2.given _ hid
    omega
  · by_contra hid
    have := hw.2.given id hid
    have := (saveInputToDb_given hr).1
    omega
  cases r with
  | error e => exact keeps_ret
  | ok id =>
  have hK := hr id rfl
  refine Behaves.bind (keeps_spawnInput finalReq hK (inputName req) w) fun r held w hr => ?_
  cases r with
  | ok info =>
    refine Keeps.andThen (Behaves.locked fun w₁ w₂ h₁ h₂ => ⟨.inl ?_, fun _ _ => trivial⟩)
      fun _ _ _ => keeps_ret
    exact keepsTo_insertInput h₂.2.wired ((hr info rfl).grows (h₁.1.trans h₂.1)) hK
  | error e =>
    refine Behaves.bind (keeps_atomic_wired (P := fun rt (info : InputInfo) => info.Wired rt id)
      fun w hw => ⟨keepsTo_openChannel hw.wired,
        wired_idleInput hw.wired id (inputName req) .error finalReq w.rt.stateChangeTx _⟩)
      fun info held w hinfo w' hw => ?_
    refine Keeps.andThen (keeps_insertInput hK (hinfo.grows hw.1)) fun _ held w => ?_
    exact Keeps.andThen (keeps_inputStatus env hK _ w) fun _ _ _ =>
      keeps_release fun _ _ => keeps_ret

theorem keeps_deleteInput (env : Env) {inputId : Int} (hK : K inputId) (w : World) :
    Keeps w₀ K (deleteInput env inputId) held w := by
  refine keeps_acquire fun held w => Keeps.andThen (keeps_atomic fun w hw =>
    keepsTo_removeInputSection hw.wired hK) fun found held w => ?_
  cases found with
  | false => exact keeps_release fun _ _ => keeps_ret
  | true =>
    exact Keeps.andThen (keeps_deleteInputFromDb env hK w) fun _ _ _ =>
      keeps_release fun _ _ => keeps_ret

theorem keeps_stopIfActive {inputId : Int} (hK : K inputId) (w : World) :
    Keeps w₀ K (stopIfActive inputId) held w := by
  refine Keeps.andThen (keeps_read w) fun active held w => ?_
  cases active with
  | false => exact keeps_ret
  | true => exact keeps_stopInput hK w

theorem keeps_updateInput (env : Env) {inputId : Int} (hK : K inputId) (req : UpdateInputRequest)
    (w : World) : Keeps w₀ K (updateInput env inputId req) held w := by
  refine Keeps.andThen (keeps_atomic fun w hw => ?_) fun r held w => ?_
  · rw [(storedInput_spec env inputId req w).1]
    exact .refl hw.wired
  cases r with
  | error r => exact keeps_ret
  | ok mergedConfig =>
  refine Keeps.andThen (keeps_updateInputInDb env hK _ _ w) fun r held w => ?_
  cases r with
  | error e => exact keeps_ret
  | ok _ =>
  refine Keeps.andThen (keeps_stopIfActive hK w) fun r held w => ?_
  cases r with
  | error e => exact keeps_ret
  | ok _ =>
  refine Keeps.andThen (keeps_locked fun w hw => keepsTo_setConfig hw.wired hK mergedConfig)
    fun _ held w => ?_
  refine Keeps.andThen (keeps_startInput env hK w) fun r held w => ?_
  cases r with
  | error e => exact keeps_ret
  | ok _ => exact Keeps.andThen (keeps_inputStatus env hK _ w) fun _ _ _ => keeps_ret

/-! ## Creating, updating and deleting outputs -/

theorem keeps_assignOutputPort (env : Env) (req : CreateOutputRequest) (w : World) :
    Keeps w₀ K (assignOutputPort env req) held w := by
  unfold assignOutputPort
  split
  · refine Keeps.andThen (keeps_looks (looks_findAvailablePort env) w) fun r held w => ?_
    cases r <;> exact keeps_ret
  · exact keeps_ret

theorem keeps_checkConflicts (env : Env) (inputId : Int) (destinationAddr : String)
    (listenPort : Option UInt16) (w : World) :
    Keeps w₀ K (checkConflicts env inputId destinationAddr listenPort) held w := by
  refine Keeps.andThen (keeps_select env _ _ w) fun r held w => ?_
  rcases r with e | _ | _
  · exact keeps_ret
  · cases listenPort with
    | none => exact keeps_ret
    | some port =>
      refine Keeps.andThen (keeps_select env _ _ w) fun r held w => ?_
      rcases r with e | _ | _ <;> exact keeps_ret
  · exact keeps_ret

theorem keeps_createOutput (env : Env) {req : CreateOutputRequest} (hK : K req.inputId)
    (w : World) : Keeps w₀ K (createOutput env req) held w := by
  unfold createOutput
  split
  · exact keeps_ret
  refine keeps_acquire fun held w => Keeps.andThen (p := createOutputGuarded env req) ?_
    fun _ _ _ => keeps_release fun _ _ => keeps_ret
  refine Keeps.andThen (keeps_atomic fun w hw => .refl hw.wired) fun found held w => ?_
  cases found with
  | false => exact keeps_ret
  | true =>
  refine Keeps.andThen (keeps_assignOutputPort env req w) fun r held w => ?_
  rcases r with r | ⟨finalReq, assignedPort⟩
  · exact keeps_ret
  refine Keeps.andThen (keeps_checkConflicts env _ _ _ w) fun r held w => ?_
  cases r with
  | error r => exact keeps_ret
  | ok _ =>
  refine Keeps.andThen (keeps_saveOutputToDb env _ hK _ _ _ _ w) fun r held w => ?_
  cases r with
  | error e => exact keeps_ret
  | ok outputId =>
  refine Keeps.andThen (keeps_atomic fun w hw =>
    keepsTo_installOutputSection hw.wired env finalReq hK outputId _) fun r _ _ => ?_
  cases r <;> exact keeps_ret

/-- The row that is deleted is that of an output of the entry. -/
theorem removeOutputSection_outputIn {inputId outputId : Int} (hK : K inputId) {w : World}
    (hw : SettledFrom w₀ K w) (h : (removeOutputSection inputId outputId w).1 = .ok ()) :
    OutputIn w₀ K outputId := by
  unfold removeOutputSection at h
  split at h
  · exact absurd h (by simp)
  rename_i info hi
  refine hw.outputIn hK hi ?_
  split at h
  · rename_i output ho
    exact .inl (HashMap.mem_iff.mpr ⟨output, ho⟩)
  split at h
  · rename_i hstopped
    exact .inr hstopped
  · exact absurd h (by simp)

theorem keeps_deleteOutput (env : Env) {inputId : Int} (hK : K inputId) (outputId : Int)
    (w : World) : Keeps w₀ K (deleteOutput env inputId outputId) held w := by
  refine keeps_acquire fun held w =>
    Behaves.bind (Q := fun r _ _ => r = .ok () → OutputIn w₀ K outputId)
    (Behaves.atomic fun w' hw => ⟨.inl (keepsTo_removeOutputSection hw.2.wired hK outputId),
      fun hr => removeOutputSection_outputIn hK hw.2 hr⟩) fun r held w hr => ?_
  cases r with
  | error r => exact keeps_release fun _ _ => keeps_ret
  | ok _ =>
    exact Keeps.andThen (keeps_deleteOutputFromDb env (hr rfl) w) fun _ _ _ =>
      keeps_release fun _ _ => keeps_ret

/-- The input is the one in the row, which the output belongs to. -/
theorem keeps_updateOutput (env : Env) {outputId : Int} (hK : OutputIn w₀ K outputId)
    (req : UpdateOutputRequest) (w : World) :
    Keeps w₀ K (updateOutput env outputId req) held w := by
  refine Behaves.bind (Q := fun r _ _ => ∀ inputId merged, r = .ok (inputId, merged) → K inputId)
    (Behaves.atomic fun w' hw => ?_) fun r held w hr => ?_
  · obtain ⟨hsame, hmerged⟩ := storedOutput_spec env outputId req w'
    rw [hsame]
    refine ⟨.inl (.refl hw.2.wired), fun inputId merged hr => ?_⟩
    obtain ⟨row, hrow, rfl, _⟩ := hmerged inputId merged hr
    exact hw.2.row hK row (Table.find_eq_some.mp hrow)
  rcases r with r | ⟨inputId, mergedConfig⟩
  · exact keeps_ret
  have hK' := hr inputId mergedConfig rfl
  refine Keeps.andThen (keeps_updateOutputInDb env hK _ _ _ _ w) fun r held w => ?_
  cases r with
  | error e => exact keeps_ret
  | ok _ =>
  refine Keeps.andThen (keeps_locked fun w hw => .refl hw.wired) fun r held w => ?_
  cases r with
  | none => exact keeps_ret
  | some isActive =>
  refine Keeps.andThen (p := if isActive then StreamGateway.stopOutput inputId outputId
    else return .ok ()) ?_ fun r held w => ?_
  · cases isActive with
    | false => exact keeps_ret
    | true => exact keeps_stopOutput hK' outputId w
  cases r with
  | error e => exact keeps_ret
  | ok _ =>
  refine Keeps.andThen (keeps_locked fun w hw =>
    keepsTo_setStoppedConfig hw.wired hK' outputId mergedConfig) fun _ held w => ?_
  refine Keeps.andThen (keeps_startOutput env hK' outputId w) fun r held w => ?_
  cases r with
  | error e => exact keeps_ret
  | ok _ => exact Keeps.andThen (keeps_outputStatus env hK _ w) fun _ _ _ => keeps_ret

/-! ## Handlers that start and stop -/

theorem keeps_startInputEndpoint (env : Env) {inputId : Int} (hK : K inputId) (w : World) :
    Keeps w₀ K (startInputEndpoint env inputId) held w := by
  refine Keeps.andThen (keeps_startInput env hK w) fun r held w => ?_
  cases r with
  | error e => exact keeps_ret
  | ok _ =>
  refine Keeps.andThen (keeps_locked fun w hw => .refl hw.wired) fun status held w => ?_
  exact Keeps.andThen (keeps_inputStatus env hK _ w) fun _ _ _ => keeps_ret

theorem keeps_stopInputEndpoint (env : Env) {inputId : Int} (hK : K inputId) (w : World) :
    Keeps w₀ K (stopInputEndpoint env inputId) held w := by
  refine Keeps.andThen (keeps_stopInput hK w) fun r held w => ?_
  cases r with
  | error e => exact keeps_ret
  | ok _ => exact Keeps.andThen (keeps_inputStatus env hK _ w) fun _ _ _ => keeps_ret

theorem keeps_getInputIdForOutput (env : Env) {outputId : Int} (hK : OutputIn w₀ K outputId)
    (w : World) : Keeps w₀ K (atomic (getInputIdForOutput env outputId)) held w fun r _ _ =>
      ∀ inputId, r = .ok inputId → K inputId := by
  refine Behaves.atomic fun w' hw => ⟨.inl ?_, fun inputId hr => ?_⟩
  · rw [getInputIdForOutput_world]
    exact .refl hw.2.wired
  · have hsel := @select_ok _ env .getInputIdForOutput (fun db => db.outputs.find outputId) w'
    unfold getInputIdForOutput at hr
    split at hr
    · exact absurd hr (by simp)
    · exact absurd hr (by simp)
    · rename_i row w' heq
      obtain rfl := Except.ok.inj hr
      exact hw.2.row hK row (Table.find_eq_some.mp (hsel (by rw [heq])))

theorem keeps_startOutputEndpoint (env : Env) {outputId : Int} (hK : OutputIn w₀ K outputId)
    (w : World) : Keeps w₀ K (startOutputEndpoint env outputId) held w := by
  refine Behaves.bind (keeps_getInputIdForOutput env hK w) fun r held w hr => ?_
  cases r with
  | error e => exact keeps_ret
  | ok inputId =>
  refine Keeps.andThen (keeps_startOutput env (hr inputId rfl) outputId w) fun r held w => ?_
  cases r with
  | error e => exact keeps_ret
  | ok _ =>
  refine Keeps.andThen (keeps_locked fun w hw => .refl hw.wired) fun status held w => ?_
  exact Keeps.andThen (keeps_outputStatus env hK _ w) fun _ _ _ => keeps_ret

theorem keeps_stopOutputEndpoint (env : Env) {outputId : Int} (hK : OutputIn w₀ K outputId)
    (w : World) : Keeps w₀ K (stopOutputEndpoint env outputId) held w := by
  refine Behaves.bind (keeps_getInputIdForOutput env hK w) fun r held w hr => ?_
  cases r with
  | error e => exact keeps_ret
  | ok inputId =>
  refine Keeps.andThen (keeps_stopOutput (hr inputId rfl) outputId w) fun r held w => ?_
  cases r with
  | error e => exact keeps_ret
  | ok _ => exact Keeps.andThen (keeps_outputStatus env hK _ w) fun _ _ _ => keeps_ret

/-! ## All operations -/

/-- The input that the request is about. The input of an output is that of its row in `w`. -/
def Operation.concerns (w : World) : Operation → Option Int
  | startInput inputId | stopInput inputId => some inputId
  | startOutput inputId _ | stopOutput inputId _ => some inputId
  | startAnalysis inputId _ _ | stopAnalysis inputId _ | stopAllAnalysis inputId => some inputId
  | createInput _ => none
  | updateInput inputId _ | deleteInput inputId => some inputId
  | createOutput req => some req.inputId
  | updateOutput outputId _ => rowInput w outputId
  | deleteOutput inputId _ => some inputId
  | startInputEndpoint inputId | stopInputEndpoint inputId => some inputId
  | startOutputEndpoint outputId | stopOutputEndpoint outputId => rowInput w outputId

/-- A request changes the entry and the tasks of the input that it is about, and of one that it
makes. -/
theorem Operation.keeps (env : Env) {op : Operation} (hK : ∀ i, op.concerns w₀ = some i → K i)
    (w : World) : Keeps w₀ K (op.prog env) none w := by
  cases op with
  | startInput inputId => exact Behaves.ignore (keeps_startInput env (hK _ rfl) w)
  | stopInput inputId => exact Behaves.ignore (keeps_stopInput (hK _ rfl) w)
  | startOutput inputId outputId =>
    exact Behaves.ignore (keeps_startOutput env (hK _ rfl) outputId w)
  | stopOutput inputId outputId => exact Behaves.ignore (keeps_stopOutput (hK _ rfl) outputId w)
  | startAnalysis inputId analysisType timeoutMinutes =>
    exact Behaves.ignore (keeps_startAnalysis (hK _ rfl) analysisType timeoutMinutes w)
  | stopAnalysis inputId analysisType =>
    exact Behaves.ignore (p := StreamGateway.stopAnalysis inputId analysisType)
      (keeps_locked fun w hw => keepsTo_stopAnalysisSection hw.wired (hK _ rfl) analysisType)
  | stopAllAnalysis inputId =>
    exact Behaves.ignore (p := StreamGateway.stopAllAnalysis inputId)
      (keeps_locked fun w hw => keepsTo_stopAllAnalysisSection hw.wired (hK _ rfl))
  | createInput req => exact Behaves.ignore (keeps_createInput env req w)
  | updateInput inputId req => exact Behaves.ignore (keeps_updateInput env (hK _ rfl) req w)
  | deleteInput inputId => exact Behaves.ignore (keeps_deleteInput env (hK _ rfl) w)
  | createOutput req => exact Behaves.ignore (keeps_createOutput env (hK _ rfl) w)
  | updateOutput outputId req => exact Behaves.ignore (keeps_updateOutput env hK req w)
  | deleteOutput inputId outputId =>
    exact Behaves.ignore (keeps_deleteOutput env (hK _ rfl) outputId w)
  | startInputEndpoint inputId =>
    exact Behaves.ignore (keeps_startInputEndpoint env (hK _ rfl) w)
  | stopInputEndpoint inputId => exact Behaves.ignore (keeps_stopInputEndpoint env (hK _ rfl) w)
  | startOutputEndpoint outputId =>
    exact Behaves.ignore (keeps_startOutputEndpoint env hK w)
  | stopOutputEndpoint outputId =>
    exact Behaves.ignore (keeps_stopOutputEndpoint env hK w)

theorem keeps_processMessage (w : World) : Keeps w₀ K processMessage held w := by
  refine Keeps.andThen (keeps_atomic fun w hw => keepsTo_receive hw.wired) fun _ held w => ?_
  refine Keeps.andThen (Behaves.locked fun _ w' _ _ => ⟨.inr rfl, fun _ _ => trivial⟩)
    fun r held w => ?_
  cases r with
  | none => exact keeps_ret
  | some r => exact keeps_atomic fun w hw => keepsTo_recordTransition hw.wired r.1 r.2

/-! ## The load -/

/-- The entries are wired, each under its own id. -/
def LoadedWired (loaded : HashMap Int InputInfo) (rt : Runtime) : Prop :=
  ∀ i info, loaded.lookup i = some info → info.Wired rt i

theorem LoadedWired.grows {loaded : HashMap Int InputInfo} {rt rt' : Runtime}
    (h : LoadedWired loaded rt) (hg : Grows rt rt') : LoadedWired loaded rt' :=
  fun i info hi => (h i info hi).grows hg

theorem LoadedWired.insert {loaded : HashMap Int InputInfo} {rt : Runtime} {id : Int}
    {info : InputInfo} (h : LoadedWired loaded rt) (hinfo : info.Wired rt id) :
    LoadedWired (loaded.insert id info) rt := by
  intro j info' hj
  rcases HashMap.lookup_insert_eq_some.mp hj with ⟨rfl, rfl⟩ | ⟨_, hj⟩
  · exact hinfo
  · exact h j info' hj

theorem loadedWired_empty (rt : Runtime) : LoadedWired ∅ rt :=
  fun _ _ hi => absurd hi (by simp)

theorem keeps_respawnInput (req : CreateInputRequest) {id : Int} (hK : K id)
    (name : Option String) (failure : String) (w : World) :
    Keeps w₀ K (respawnInput req id name failure) held w fun info _ w' =>
      info.Wired w'.rt id := by
  refine Behaves.bind (keeps_spawnInput req hK name w) fun r held w hr => ?_
  cases r with
  | ok info => exact Behaves.ret (hr info rfl)
  | error e => exact keeps_openIdle name .error req _ w

theorem keeps_loadBaseInput {id : Int} (hK : K id) (row : InputRow) (req : CreateInputRequest)
    (w : World) : Keeps w₀ K (loadBaseInput id row req) held w fun info _ w' =>
      info.Wired w'.rt id := by
  unfold loadBaseInput
  split
  · exact keeps_openIdle row.name .stopped req none w
  · exact keeps_respawnInput req hK row.name _ w

/-- The load works on all inputs. -/
theorem keeps_loadBaseInputs (env : Env) (hK : ∀ i, K i) (rows : List (Int × InputRow))
    (loaded : HashMap Int InputInfo) (w : World) (hl : LoadedWired loaded w.rt) :
    Keeps w₀ K (loadBaseInputs env rows loaded) held w fun r _ w' =>
      ∀ loaded, r = .ok loaded → LoadedWired loaded w'.rt := by
  induction rows generalizing held loaded w with
  | nil =>
    refine Behaves.ret fun loaded' hr => ?_
    obtain rfl := Except.ok.inj hr
    exact hl
  | cons r rest ih =>
    obtain ⟨id, row⟩ := r
    unfold loadBaseInputs
    split
    · exact ih loaded w hl
    · exact Behaves.ret fun _ hr => absurd hr (by simp)
    · rename_i req _
      exact Behaves.bind (keeps_loadBaseInput (hK id) row req w).grows fun info held w' hinfo =>
        ih _ w' ((hl.grows hinfo.2).insert hinfo.1)

theorem keeps_loadSptsInput {id : Int} (hK : K id) (row : InputRow) (req : CreateInputRequest)
    (w : World) : Keeps w₀ K (loadSptsInput id row req) held w fun info _ w' =>
      info.Wired w'.rt id := by
  unfold loadSptsInput
  split
  · exact keeps_openIdle row.name .stopped req none w
  refine Behaves.bind (Q := fun _ _ _ => True) (keeps_locked fun w hw => ?_) fun r held w _ => ?_
  · rw [missingSource_world]
    exact .refl hw.wired
  cases r with
  | none => exact keeps_respawnInput req hK row.name _ w
  | some sourceId => exact keeps_openIdle row.name .stopped req _ w

theorem keeps_loadSptsInputs (env : Env) (hK : ∀ i, K i) (rows : List (Int × InputRow))
    (loaded : HashMap Int InputInfo) (w : World) (hl : LoadedWired loaded w.rt) :
    Keeps w₀ K (loadSptsInputs env rows loaded) held w fun r _ w' =>
      ∀ loaded, r = .ok loaded → LoadedWired loaded w'.rt := by
  induction rows generalizing held loaded w with
  | nil =>
    refine Behaves.ret fun loaded' hr => ?_
    obtain rfl := Except.ok.inj hr
    exact hl
  | cons r rest ih =>
    obtain ⟨id, row⟩ := r
    unfold loadSptsInputs
    split
    · exact Behaves.ret fun _ hr => absurd hr (by simp)
    · rename_i req _
      exact Behaves.bind (keeps_loadSptsInput (hK id) row req w).grows fun info held w' hinfo =>
        ih _ w' ((hl.grows hinfo.2).insert hinfo.1)

theorem keeps_loadGroups (env : Env) (hK : ∀ i, K i) (outs : List (Int × OutputRow))
    (inputIds : List Int) (w : World) : Keeps w₀ K (loadGroups env outs inputIds) held w := by
  induction inputIds generalizing held w with
  | nil => exact keeps_ret
  | cons inputId rest ih =>
    refine Keeps.andThen (keeps_locked fun w hw =>
      keepsTo_loadGroupSection hw.wired env (hK inputId) _) fun r held w => ?_
    cases r with
    | error e => exact keeps_ret
    | ok _ => exact ih w

theorem keeps_insertInputs (hK : ∀ i, K i) {loaded : HashMap Int InputInfo} {w : World}
    (hl : LoadedWired loaded w.rt) : Keeps w₀ K (locked .write (insertInputs loaded)) held w :=
  Behaves.locked fun _ _ h₁ h₂ =>
    ⟨.inl (keepsTo_insertInputs h₂.2.wired (hl.grows (h₁.1.trans h₂.1)) hK), fun _ _ => trivial⟩

theorem keeps_loadFromDb (env : Env) (hK : ∀ i, K i) (w : World) :
    Keeps w₀ K (loadFromDb env) held w := by
  refine Keeps.andThen (keeps_select env _ _ w) fun r held w => ?_
  cases r with
  | error e => exact keeps_ret
  | ok rows =>
  refine Behaves.bind (keeps_loadBaseInputs env hK _ ∅ w (loadedWired_empty w.rt))
    fun r held w hr => ?_
  cases r with
  | error e => exact keeps_ret
  | ok loaded =>
  refine Keeps.andThen (keeps_insertInputs hK (hr loaded rfl)) fun _ held w => ?_
  refine Behaves.bind (keeps_loadSptsInputs env hK _ ∅ w (loadedWired_empty w.rt))
    fun r held w hr => ?_
  cases r with
  | error e => exact keeps_ret
  | ok sptsLoaded =>
  refine Behaves.bind (keeps_select env _ _ w).grows fun r held w' hw => ?_
  cases r with
  | error e => exact keeps_ret
  | ok outs =>
  refine Keeps.andThen (keeps_insertInputs hK ((hr sptsLoaded rfl).grows hw.2)) fun _ held w => ?_
  exact keeps_loadGroups env hK outs _ w

/-! ## Runs -/

/-- The calls that keep to the inputs in `K`, as the rows in `w₀` tell. -/
def CallsIn (w₀ : World) (K : Int → Prop) (p : Prog World Unit) : Prop :=
  (∃ env op, (∀ i, op.concerns w₀ = some i → K i) ∧ p = Operation.prog env op) ∨
    p = processMessage

theorem CallsIn.gatewayCall {p : Prog World Unit} (h : CallsIn w₀ K p) : GatewayCall p := by
  rcases h with ⟨env, op, _, rfl⟩ | rfl
  · exact .inl ⟨env, op, rfl⟩
  · exact .inr rfl

theorem CallsIn.keeps {p : Prog World Unit} (h : CallsIn w₀ K p) (w : World) :
    Keeps w₀ K p none w := by
  rcases h with ⟨env, op, hK, rfl⟩ | rfl
  · exact op.keeps env hK w
  · exact keeps_processMessage w

/-- What is known of all steps: each output has one input, and no id is taken back. -/
def KeepsOwners (a b : Pool World) : Prop :=
  (∃ own, b.shared.Attributed own) ∧ a.shared.db.inputs.lastId ≤ b.shared.db.inputs.lastId

theorem SettledFrom.step {w w' : World} (hw : SettledFrom w₀ K w)
    (hstep : keepsGuar K held w w' ∨ TaskStep w w') (hown : ∃ own, w'.Attributed own)
    (hlast : w.db.inputs.lastId ≤ w'.db.inputs.lastId) : SettledFrom w₀ K w' := by
  have hgiven : ∀ i, ¬ K i → i ≤ w'.db.inputs.lastId :=
    fun i hi => Int.le_trans (hw.given i hi) hlast
  rcases hstep with (hkeeps | rfl) | ho
  · exact ⟨hkeeps.wired, hown, hgiven, hw.rows.trans hkeeps.rows⟩
  · refine ⟨hw.wired.applyProcessing, hown, hgiven, ?_⟩
    rw [applyProcessing_db]
    exact hw.rows
  · refine ⟨ho.wired hw.wired, hown, hgiven, ?_⟩
    rw [ho.db]
    exact hw.rows

theorem settled_fits : Pool.Fits (SettledFrom w₀ K) (settledRely w₀ K) (keepsGuar K)
    (CallsIn w₀ K) TaskStep KeepsOwners where
  refl := fun hi => ⟨.of_eq rfl, hi⟩
  calls := fun hp _ => hp.keeps _
  keeps := fun hi hstep hc => hi.step hstep hc.1 hc.2
  relies := by
    intro a b t h _ hi hstep hc
    have hstep := hstep.imp_left fun hguar => hguar.2
    exact ⟨hstep.elim keepsGuar.grows TaskStep.grows, hi.step hstep hc.1 hc.2⟩

/-- In a run that starts with the load, all steps are so. -/
theorem runs_keepOwners {env : Env} {db : Database} {p q : Pool World} (hdb : db.Consistent)
    (hp : Pool.Runs GatewayCall TaskStep (fun _ _ => True) (bootPool env db) p)
    {calls : Prog World Unit → Prop} (hcalls : ∀ p, calls p → GatewayCall p)
    (hq : Pool.Runs calls TaskStep (fun _ _ => True) p q) :
    Pool.RunsUnder calls TaskStep KeepsOwners p q ∧
      Pool.Runs GatewayCall TaskStep (fun _ _ => True) (bootPool env db) q := by
  have hfits : ∀ {calls : Prog World Unit → Prop}, (∀ p, calls p → GatewayCall p) →
      Pool.Fits (fun _ => True) anyRely (Act anyRely fun _ => True) calls TaskStep
        (fun _ _ => True) := fun hcalls =>
    ⟨fun _ => trivial, fun hp _ => (hcalls _ hp).acts _, fun _ _ _ => trivial,
      fun _ _ _ _ => trivial⟩
  have hbehaves := (behaving_bootPool (fun _ => True) env db trivial trivial).runs
    (hfits fun _ h => h) hp
  induction hq with
  | refl => exact ⟨.refl, hp⟩
  | @tail b c hb hstep ih =>
    have hrun : Pool.Runs GatewayCall TaskStep (fun _ _ => True) (bootPool env db) c :=
      ih.2.tail ⟨hstep.1.mono hcalls, trivial⟩
    have hmoved := ((hbehaves.runs (hfits hcalls) hb).step (hfits hcalls) hstep.1 trivial).2
    refine ⟨ih.1.tail ⟨hstep.1, runs_attributed hdb hrun, ?_⟩, hrun⟩
    rcases hmoved with heq | ⟨h, ha⟩ | ho
    · rw [heq]
    · exact ha.lastId
    · rw [ho.db]

theorem wired_boot (db : Database) : (World.boot db).Wired :=
  ⟨⟨.init _, fun _ ht => absurd ht List.not_mem_nil⟩,
    fun i info hi => absurd hi (by simp [World.boot])⟩

/-- In every state of every run the streams are wired. -/
theorem runs_wired {env : Env} {db : Database} {p : Pool World} (hdb : db.Consistent)
    (hruns : Pool.Runs GatewayCall TaskStep (fun _ _ => True) (bootPool env db) p) :
    p.shared.Wired := by
  have howners := (runs_keepOwners hdb .refl (fun _ h => h) hruns).1
  have hboot : Pool.Behaving (SettledFrom (.boot db) fun _ => True)
      (settledRely (.boot db) fun _ => True) (keepsGuar fun _ => True) (bootPool env db) := by
    refine ⟨⟨wired_boot db, runs_attributed hdb .refl, fun i hi => absurd trivial hi, .of_eq rfl⟩,
      List.pairwise_singleton _ _, fun t ht => ?_⟩
    obtain rfl := List.mem_singleton.mp ht
    exact Behaves.ignore (keeps_loadFromDb env (fun _ => trivial) _)
  have hany : ∀ p, GatewayCall p → CallsIn (.boot db) (fun _ => True) p := by
    rintro p (⟨env, op, rfl⟩ | rfl)
    · exact .inl ⟨env, op, fun _ _ => trivial, rfl⟩
    · exact .inr rfl
  have hin : Pool.RunsUnder (CallsIn (.boot db) fun _ => True) TaskStep KeepsOwners
      (bootPool env db) p :=
    Relation.ReflTransGen.mono (fun _ _ h => ⟨h.1.mono hany, h.2⟩) _ _ howners
  exact (hboot.runs settled_fits hin).inv.wired

end StreamGateway
