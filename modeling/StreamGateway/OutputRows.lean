import StreamGateway.Acts

/-!
# The rows of outputs

Three things happen to the rows of outputs. A row is inserted by `create_output`, rewritten
by `update_output`, or else rows are deleted and statuses written. No act gives a key that
was given before, and none changes the input or the kind of a row.
-/
namespace StreamGateway

open Prog

/-- Rows are deleted, and the statuses of others are written. -/
structure Thinned (t t' : Table OutputRow) : Prop where
  lastId : t'.lastId = t.lastId
  rows : ∀ k row', (k, row') ∈ t'.rows →
    ∃ row, (k, row) ∈ t.rows ∧ row' = { row with status := row'.status }

theorem Thinned.refl (t : Table OutputRow) : Thinned t t := ⟨rfl, fun _ row h => ⟨row, h, rfl⟩⟩

theorem thinned_delete (t : Table OutputRow) (p : Int → OutputRow → Bool) :
    Thinned t (t.delete p) :=
  ⟨rfl, fun _ row h => ⟨row, List.mem_of_mem_filter h, rfl⟩⟩

theorem thinned_status (t : Table OutputRow) (k : Int) (status : String) :
    Thinned t (t.update k fun row => { row with status := status }) := by
  refine ⟨rfl, fun k' row' h => ?_⟩
  obtain ⟨row, hmem, hrow⟩ := Table.mem_update h
  refine ⟨row, hmem, ?_⟩
  split at hrow <;> rw [hrow]

/-- The row that `create_output` stores. -/
def newOutputRow (req : CreateOutputRequest) : OutputRow where
  name := outputRowName req (outputDestination req).1
  inputId := req.inputId
  kind := outputRowKind req
  destination := some (outputDestination req).1
  listenPort := (outputDestination req).2
  configJson := some (.obj req.toFields)
  status := "connecting"

/-- What `update_output` makes of a row. -/
def OutputRow.withConfig (row : OutputRow) (config : CreateOutputRequest) : OutputRow :=
  { row with
    name := config.name
    destination := some (updatedDestination config).1
    configJson := some (.obj config.toFields)
    listenPort := (updatedDestination config).2 }

/-- A merge keeps the kind and the input of an output. -/
theorem mergeOutputConfig_same {current merged : CreateOutputRequest}
    {update : UpdateOutputRequest} (h : mergeOutputConfig current update = .ok merged) :
    outputRowKind merged = outputRowKind current ∧ merged.inputId = current.inputId := by
  unfold mergeOutputConfig at h
  split at h
  · obtain rfl := Except.ok.inj h
    exact ⟨rfl, rfl⟩
  · split at h
    · obtain rfl := Except.ok.inj h
      exact ⟨rfl, rfl⟩
    · obtain rfl := Except.ok.inj h
      exact ⟨rfl, rfl⟩
    · exact absurd h (by simp)
  · exact absurd h (by simp)

theorem query_db_cases {α : Type} (env : Env) (q : Query) (f : Database → α × Database)
    (w : World) :
    (query env q f w).2.db = w.db ∨ (query env q f w).2.db = (f w.db).2 := by
  unfold query
  split
  · exact .inl rfl
  · exact .inr rfl

/-- What holds of the database holds after a query that keeps it. -/
theorem query_db {α : Type} {P : Database → Prop} {env : Env} {q : Query}
    {f : Database → α × Database} {w : World} (hold : P w.db) (hnew : P (f w.db).2) :
    P (query env q f w).2.db := by
  rcases query_db_cases env q f w with h | h
  · rwa [h]
  · rwa [h]

/-- The input can only be deleted once its outputs are. -/
theorem deleteInputFromDb_db_cases (env : Env) (id : Int) (w : World) :
    (deleteInputFromDb env id w).2.db = w.db ∨
      ((deleteInputFromDb env id w).2.db.inputs = w.db.inputs ∨
        (deleteInputFromDb env id w).2.db.inputs =
          w.db.inputs.delete fun rowId _ => rowId = id) ∧
      (deleteInputFromDb env id w).2.db.outputs =
        w.db.outputs.delete fun _ row => row.inputId = id := by
  unfold deleteInputFromDb query
  cases env.queryError .deleteOutputsOfInput with
  | some e => exact .inl rfl
  | none =>
    cases env.queryError .deleteInput with
    | some e => exact .inr ⟨.inl rfl, rfl⟩
    | none => exact .inr ⟨.inr rfl, rfl⟩

/-! ## Sections do not touch the database -/

@[simp] theorem restartSection_db (env : Env) (plan : StartPlan) (w : World) :
    (restartSection env plan w).2.db = w.db := by
  unfold restartSection
  split <;> rfl

@[simp] theorem sptsInstallSection_db (env : Env) (i : Int) (new : InputInfo) (w : World) :
    (sptsInstallSection env i new w).2.db = w.db := by
  unfold sptsInstallSection
  split <;> rfl

@[simp] theorem stopInputSection_db (i : Int) (w : World) :
    (stopInputSection i w).2.db = w.db := by
  unfold stopInputSection
  split
  · rfl
  · split <;> rfl

@[simp] theorem startOutputSection_db (env : Env) (i k : Int) (w : World) :
    (startOutputSection env i k w).2.db = w.db := by
  unfold startOutputSection
  split
  · rfl
  split
  · rfl
  split
  · dsimp only
    split <;> rfl
  · split <;> rfl

@[simp] theorem stopOutputSection_db (i k : Int) (w : World) :
    (stopOutputSection i k w).2.db = w.db := by
  unfold stopOutputSection
  split
  · rfl
  split
  · rfl
  · split <;> rfl

@[simp] theorem setStoppedConfig_db (i k : Int) (config : CreateOutputRequest) (w : World) :
    (setStoppedConfig i k config w).2.db = w.db := by
  unfold setStoppedConfig
  split <;> rfl

@[simp] theorem removeInputSection_db (i : Int) (w : World) :
    (removeInputSection i w).2.db = w.db := by
  unfold removeInputSection
  split <;> rfl

@[simp] theorem removeOutputSection_db (i k : Int) (w : World) :
    (removeOutputSection i k w).2.db = w.db := by
  unfold removeOutputSection
  split
  · rfl
  split
  · rfl
  · split <;> rfl

@[simp] theorem installOutputSection_db (env : Env) (req : CreateOutputRequest) (i k : Int)
    (destination : String) (w : World) :
    (installOutputSection env req i k destination w).2.db = w.db := by
  unfold installOutputSection
  split
  · rfl
  split
  · rfl
  · split <;> rfl

@[simp] theorem loadGroupSection_db (env : Env) (i : Int) (outputs : List (Int × OutputRow))
    (w : World) : (loadGroupSection env i outputs w).2.db = w.db := by
  unfold loadGroupSection
  split <;> rfl

@[simp] theorem receive_db (w : World) : (receive w).2.db = w.db := by
  unfold receive
  split <;> rfl

@[simp] theorem applyProcessing_db (w : World) : (applyProcessing w).2.db = w.db := by
  unfold applyProcessing
  split <;> rfl

/-! ## What an act does to the database -/

/-- An act leaves the database as it is, or it is a query that goes through. -/
@[elab_as_elim]
theorem Act.databaseCases {rely : Guarded World} {ops : Option Operation → Prop}
    {motive : Option LockMode → World → World → Prop} {h : Option LockMode} {w w' : World}
    (ha : Act rely ops h w w') (same : ∀ h (w w' : World), w'.db = w.db → motive h w w')
    (saveInput : ∀ h (w w' : World) called name (req : CreateInputRequest),
      ops (some (.createInput called)) →
      w'.db = { w.db with
        inputs := w.db.inputs.insert
          ⟨name, inputKindString req, .obj req.toFields, "listening"⟩ } → motive h w w')
    (inputStatus : ∀ h (w w' : World) i status,
      w'.db = { w.db with
        inputs := w.db.inputs.update i fun row => { row with status := status } } →
      motive h w w')
    (updateInput : ∀ h (w w' : World) env i req merged, ops (some (.updateInput i req)) →
      InputMerged rely env i req merged w →
      w'.db = { w.db with
        inputs := w.db.inputs.update i fun row =>
          { row with
            name := getNameFromRequest merged
            configJson := .obj merged.toFields } } → motive h w w')
    (deleteInput : ∀ (w w' : World) i, ops (some (.deleteInput i)) →
      (w'.db.inputs = w.db.inputs ∨
        w'.db.inputs = w.db.inputs.delete fun rowId _ => rowId = i) →
      w'.db.outputs = w.db.outputs.delete (fun _ row => row.inputId = i) →
      motive (some .write) w w')
    (saveOutput : ∀ (w w₁ w' : World) called (req : CreateOutputRequest),
      ops (some (.createOutput called)) →
      rely (some .write) w₁ w →
      DestinationFree w₁.db req.inputId (outputDestination req).1 →
      (∀ port, (outputDestination req).2 = some port →
        ∃ w₂, rely (some .write) w₂ w ∧ PortFree w₂.db port) →
      w'.db = { w.db with outputs := w.db.outputs.insert (newOutputRow req) } →
      motive (some .write) w w')
    (outputStatus : ∀ h (w w' : World) k status,
      w'.db = { w.db with
        outputs := w.db.outputs.update k fun row => { row with status := status } } →
      motive h w w')
    (updateOutput : ∀ (w w' : World) env i k req merged, ops (some (.updateOutput k req)) →
      OutputMerged rely env k req i merged w →
      w'.db = { w.db with outputs := w.db.outputs.update k fun row => row.withConfig merged } →
      motive none w w')
    (deleteOutput : ∀ (w w' : World) i k, ops (some (.deleteOutput i k)) →
      w'.db = { w.db with outputs := w.db.outputs.delete fun rowId _ => rowId = k } →
      motive (some .write) w w') : motive h w w' := by
  cases ha with
  | quiet _ _ hdb => exact same h w w' hdb
  | launch _ _ _ _ hdb => exact same h w w' hdb
  | edit _ _ _ _ _ _ _ _ hdb => exact same h w w' hdb
  | restart => exact same h w _ (by simp)
  | install => exact same h w _ (by simp)
  | stopInput => exact same h w _ (by simp)
  | startOutput => exact same h w _ (by simp)
  | stopOutput => exact same h w _ (by simp)
  | setStopped => exact same h w _ (by simp)
  | removeInput => exact same _ w _ (by simp)
  | removeOutput => exact same _ w _ (by simp)
  | insertInput => exact same h w _ rfl
  | insertInputs => exact same h w _ rfl
  | installOutput => exact same _ w _ (by simp)
  | loadGroup => exact same h w _ (by simp)
  | receive => exact same h w _ (by simp)
  | apply => exact same h w _ (by simp)
  | saveInput env name called req hops =>
    rcases query_db_cases env .saveInput _ w with hdb | hdb
    · exact same h w _ hdb
    · exact saveInput h w _ called name req hops hdb
  | inputStatus env i status =>
    rcases query_db_cases env .updateInputStatus _ w with hdb | hdb
    · exact same h w _ hdb
    · exact inputStatus h w _ i status hdb
  | updateInput env i req merged hops hmerged =>
    rcases query_db_cases env .updateInput _ w with hdb | hdb
    · exact same h w _ hdb
    · exact updateInput h w _ env i req merged hops hmerged hdb
  | deleteInput env i hops =>
    rcases deleteInputFromDb_db_cases env i w with hdb | ⟨hinputs, houtputs⟩
    · exact same _ w _ hdb
    · exact deleteInput w _ i hops hinputs houtputs
  | @saveOutput _ w₁ env called req hops hrely hdest hport =>
    unfold saveOutputToDb
    split
    · exact same _ w _ rfl
    rcases query_db_cases env .saveOutput _ w with hdb | hdb
    · exact same _ w _ hdb
    · exact saveOutput w w₁ _ called req hops hrely hdest hport hdb
  | outputStatus env k status =>
    rcases query_db_cases env .updateOutputStatus _ w with hdb | hdb
    · exact same h w _ hdb
    · exact outputStatus h w _ k status hdb
  | updateOutput env i k req merged hops hmerged =>
    rcases query_db_cases env .updateOutput _ w with hdb | hdb
    · exact same _ w _ hdb
    · exact updateOutput w _ env i k req merged hops hmerged hdb
  | deleteOutput env i k hops =>
    rcases query_db_cases env .deleteOutput _ w with hdb | hdb
    · exact same _ w _ hdb
    · exact deleteOutput w _ i k hops hdb

/-! ## What an act does to the rows -/

/-- A row is inserted that was found free of conflicts before. -/
structure Inserted (rely : Guarded World) (ops : Option Operation → Prop)
    (req : CreateOutputRequest) (w w' : World) : Prop where
  called : ∃ called, ops (some (.createOutput called))
  row : w'.db.outputs = w.db.outputs.insert (newOutputRow req)
  destination : ∃ w₁, rely (some .write) w₁ w ∧
    DestinationFree w₁.db req.inputId (outputDestination req).1
  port : ∀ port, (outputDestination req).2 = some port →
    ∃ w₂, rely (some .write) w₂ w ∧ PortFree w₂.db port

/-- The row of an output is rewritten after an update. -/
structure Rewritten (rely : Guarded World) (ops : Option Operation → Prop) (env : Env) (i k : Int)
    (req : UpdateOutputRequest) (merged : CreateOutputRequest) (w w' : World) : Prop where
  called : ops (some (.updateOutput k req))
  known : OutputMerged rely env k req i merged w
  rows : w'.db.outputs = w.db.outputs.update k fun row => row.withConfig merged

theorem Act.outputRows {rely : Guarded World} {ops : Option Operation → Prop} {h : Option LockMode}
    {w w' : World} (ha : Act rely ops h w w') : Thinned w.db.outputs w'.db.outputs ∨
      (h = some .write ∧ ∃ req, Inserted rely ops req w w') ∨
      (h = none ∧ ∃ env i k req merged, Rewritten rely ops env i k req merged w w') := by
  have hsame : ∀ w w' : World, w'.db.outputs = w.db.outputs →
      Thinned w.db.outputs w'.db.outputs := by
    intro w w' heq
    rw [heq]
    exact .refl _
  refine ha.databaseCases ?same ?saveInput ?inputStatus ?updateInput ?deleteInput ?saveOutput
    ?outputStatus ?updateOutput ?deleteOutput
  case same => exact fun h w w' hdb => .inl (hsame w w' (by rw [hdb]))
  case saveInput => exact fun h w w' called name req _ hdb => .inl (hsame w w' (by rw [hdb]))
  case inputStatus => exact fun h w w' i status hdb => .inl (hsame w w' (by rw [hdb]))
  case updateInput =>
    exact fun h w w' env i req merged _ _ hdb => .inl (hsame w w' (by rw [hdb]))
  case deleteInput =>
    intro w w' i _ _ houtputs
    rw [houtputs]
    exact .inl (thinned_delete _ _)
  case saveOutput =>
    intro w w₁ w' called req hops hrely hdest hport hdb
    exact .inr (.inl ⟨rfl, req, ⟨called, hops⟩, by rw [hdb], ⟨w₁, hrely, hdest⟩, hport⟩)
  case outputStatus =>
    intro h w w' k status hdb
    rw [hdb]
    exact .inl (thinned_status _ _ _)
  case updateOutput =>
    intro w w' env i k req merged hops hmerged hdb
    exact .inr (.inr ⟨rfl, env, i, k, req, merged, hops, hmerged, by rw [hdb]⟩)
  case deleteOutput =>
    intro w w' i k _ hdb
    have houtputs : w'.db.outputs = w.db.outputs.delete fun rowId _ => rowId = k := by rw [hdb]
    rw [houtputs]
    exact .inl (thinned_delete _ _)

end StreamGateway
