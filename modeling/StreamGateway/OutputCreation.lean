import StreamGateway.OutputLosses

/-!
# The outcomes of a creation

`create_output` checks the request, inserts the row, and only then resolves the destination
and spawns the sender. So there are three outcomes: nothing changes, the output is created,
or the row alone is left.
-/
namespace StreamGateway

open Prog

/-- All the steps before the insertion of the row go through, and so does the insertion. The
stored request is the one with the port that was assigned, if any. -/
structure Stores (env : Env) (w : World) (req stored : CreateOutputRequest) : Prop where
  valid : validateOutput env req = .ok ()
  input : req.inputId ∈ w.streams
  port : ∃ assignedPort,
    (assignOutputPort env req).alone true w = some (.ok (stored, assignedPort), true, w)
  free : (checkConflicts env req.inputId (outputDestination stored).1
    (outputDestination stored).2).alone true w = some (.ok (), true, w)
  inputRow : (w.db.inputs.find req.inputId).isSome = true
  query : env.queryError .saveOutput = none

/-- The request that is stored is the one that the assignment of a port gives. -/
theorem Stores.assigned {env : Env} {w : World} {req stored stored' : CreateOutputRequest}
    {assignedPort : Option UInt16} (h : Stores env w req stored)
    (hassign : (assignOutputPort env req).alone true w =
      some (.ok (stored', assignedPort), true, w)) : stored' = stored := by
  obtain ⟨_, hport⟩ := h.port
  have heq := hassign.symm.trans hport
  simp only [Option.some.injEq, Prod.mk.injEq, Except.ok.injEq] at heq
  exact heq.1.1

theorem Stores.unique {env : Env} {w : World} {req stored stored' : CreateOutputRequest}
    (h : Stores env w req stored) (h' : Stores env w req stored') : stored' = stored := by
  obtain ⟨_, hport'⟩ := h'.port
  exact h.assigned hport'

theorem Stores.request {env : Env} {w : World} {req stored : CreateOutputRequest}
    (h : Stores env w req stored) : stored = req ∨ ∃ port, stored = req.withAssignedPort port := by
  obtain ⟨_, hport⟩ := h.port
  exact ((reads_assignOutputPort env req).eq hport).2.2.request _ _ rfl

/-- The state with the row of the output. -/
def World.withRow (w : World) (inputId : Int) (stored : CreateOutputRequest) : World :=
  { w with db := { w.db with outputs := w.db.outputs.insert (stored.row inputId) } }

/-- The output in the entry of its input, as the spawn gives it. -/
structure Installs (env : Env) (w : World) (inputId k : Int) (stored : CreateOutputRequest)
    (input : InputInfo) (output : OutputInfo) (w' : World) : Prop where
  found : w.streams.lookup inputId = some input
  spawn : spawnOutput env stored input inputId k (outputDestination stored).1 w.rt =
    .ok (output, w'.rt)
  db : w'.db = w.db
  streams : w'.streams = w.streams.insert inputId
    { input with outputTasks := input.outputTasks.insert k output }

section Outcomes

variable {env : Env} {w w' : World} {req stored : CreateOutputRequest} {held : Bool}
  {response : Response}

theorem saveOutputToDb_stored (inputId : Int)
    (hrow : (w.db.inputs.find inputId).isSome = true)
    (hquery : env.queryError .saveOutput = none) :
    saveOutputToDb env (outputRowName stored (outputDestination stored).1) inputId
      (outputRowKind stored) (outputDestination stored).1 (some (.obj stored.toFields))
      (outputDestination stored).2 w =
        (.ok (w.db.outputs.lastId + 1), w.withRow inputId stored) := by
  have hsome : (w.db.inputs.find inputId).isNone = false := by simpa using hrow
  simp only [saveOutputToDb, hsome, Bool.false_eq_true, if_false, query, hquery]
  rfl

/-- Without the row of the input the insertion is refused too. -/
theorem saveOutputToDb_refused {name : Option String} {inputId : Int}
    {kind destination : String} {configJson : Option Json} {listenPort : Option UInt16}
    (h : ¬ (env.queryError .saveOutput = none ∧ (w.db.inputs.find inputId).isSome = true)) :
    ∃ e, saveOutputToDb env name inputId kind destination configJson listenPort w =
      (.error e, w) := by
  unfold saveOutputToDb query
  split
  · exact ⟨_, rfl⟩
  rename_i hrow
  cases hq : env.queryError .saveOutput with
  | some e => exact ⟨e, rfl⟩
  | none =>
    refine absurd ⟨hq, Option.isSome_iff_ne_none.mpr ?_⟩ h
    simpa using hrow

theorem spawnOutput_ok_iff {input : InputInfo} {inputId k : Int} {rt : Runtime} :
    (∃ r, spawnOutput env stored input inputId k (outputDestination stored).1 rt = .ok r) ↔
      stored.Resolves env := by
  constructor
  · rintro ⟨r, hr⟩
    exact spawnOutput_resolves hr
  · intro hres
    cases stored with
    | srt => exact ⟨_, rfl⟩
    | udp =>
      obtain ⟨addr, haddr⟩ := hres
      simp only [spawnOutput, createUdpOutput, haddr]
      exact ⟨_, rfl⟩

/-- The installation fails when the destination does not resolve, and then changes
nothing. -/
theorem installOutputSection_outcome (hids : w.IdsMatch) {inputId : Int} (k : Int)
    (stored : CreateOutputRequest) (hinput : inputId ∈ w.streams) :
    (¬ stored.Resolves env ∧ ∃ e : HttpError, 400 ≤ e.status ∧
      installOutputSection env stored inputId k (outputDestination stored).1 w =
        (.error e, w)) ∨
    stored.Resolves env ∧ ∃ input output w',
      installOutputSection env stored inputId k (outputDestination stored).1 w =
        (.ok output, w') ∧ Installs env w inputId k stored input output w' := by
  obtain ⟨input, hi⟩ := HashMap.mem_iff.mp hinput
  unfold installOutputSection
  rw [hi]
  dsimp only
  cases hspawn : spawnOutput env stored input inputId k (outputDestination stored).1 w.rt with
  | error e =>
    refine .inl ⟨fun hres => ?_, e, spawnOutput_error hspawn, rfl⟩
    obtain ⟨r, hr⟩ := spawnOutput_ok_iff.mpr hres
    exact absurd (hspawn.symm.trans hr) (by simp)
  | ok r =>
    obtain ⟨output, rt⟩ := r
    obtain ⟨i, spec, hor, hl⟩ := spawnOutput_launch hspawn
    have hid : output.inputId = inputId := by
      rw [hids inputId input hi, or_self] at hor
      rw [hl.inputId_eq, hor]
    refine .inr ⟨spawnOutput_resolves hspawn, input, output, { w with
      streams := w.streams.insert inputId { input with
        outputTasks := input.outputTasks.insert k output }
      rt := rt }, ?_, ⟨hi, hspawn, rfl, rfl⟩⟩
    dsimp only
    rw [hid, hi, hl.outputId_eq]

/-- What a creation comes to. -/
inductive CreationOutcome (env : Env) (w : World) (req : CreateOutputRequest) :
    Response → World → Prop
  | refused {response : Response} : 400 ≤ response.status →
      (∀ stored, ¬ Stores env w req stored) → CreationOutcome env w req response w
  | rowLeft {response : Response} (stored : CreateOutputRequest) : 400 ≤ response.status →
      Stores env w req stored → ¬ stored.Resolves env →
      CreationOutcome env w req response (w.withRow req.inputId stored)
  | created {response : Response} {w' : World} (stored : CreateOutputRequest)
      (input : InputInfo) (output : OutputInfo) : response.status = 201 →
      Stores env w req stored → stored.Resolves env →
      Installs env (w.withRow req.inputId stored) req.inputId (w.db.outputs.lastId + 1) stored
        input output w' → CreationOutcome env w req response w'

/-- The steps that follow when the request is valid and the input is there. -/
theorem createOutputHeld_outcome (hids : w.IdsMatch) (hvalid : validateOutput env req = .ok ())
    (hinput : req.inputId ∈ w.streams)
    (h : (createOutputHeld env req).alone true w = some (response, held, w')) :
    CreationOutcome env w req response w' := by
  obtain ⟨r, _, w₁, hassign, h⟩ := alone_bind_eq_some.mp h
  obtain ⟨rfl, hw₁, hassigned⟩ := (reads_assignOutputPort env req).eq hassign
  obtain rfl := hw₁.symm
  rcases r with r | ⟨stored, assignedPort⟩
  · obtain ⟨rfl, _, rfl⟩ := alone_ret_eq_some.mp h
    refine .refused (hassigned.refused _ rfl) fun stored hstores => ?_
    obtain ⟨_, hport⟩ := hstores.port
    exact absurd (hassign.symm.trans hport) (by simp)
  obtain ⟨destinationAddr, listenPort, hd⟩ : ∃ a p, outputDestination stored = (a, p) :=
    ⟨_, _, rfl⟩
  dsimp only at h
  rw [hd] at h
  dsimp only at h
  obtain ⟨r, _, w₁, hconflicts, h⟩ := alone_bind_eq_some.mp h
  obtain ⟨rfl, hw₁, herror⟩ := (reads_checkConflicts env _ _ _).eq hconflicts
  obtain rfl := hw₁.symm
  cases r with
  | error r =>
    obtain ⟨rfl, _, rfl⟩ := alone_ret_eq_some.mp h
    refine .refused (herror _ rfl) fun stored' hstores => ?_
    obtain rfl := hstores.assigned hassign
    have hfree := hstores.free
    rw [hd] at hfree
    exact absurd (hconflicts.symm.trans hfree) (by simp)
  | ok _ =>
  dsimp only at h
  rw [alone_atomic_bind] at h
  by_cases hsaves : env.queryError .saveOutput = none ∧
      (w.db.inputs.find req.inputId).isSome = true
  · have hstores : Stores env w req stored :=
      ⟨hvalid, hinput, ⟨assignedPort, hassign⟩, by rw [hd]; exact hconflicts, hsaves.2,
        hsaves.1⟩
    have hsave := @saveOutputToDb_stored env w stored req.inputId hsaves.2 hsaves.1
    rw [hd] at hsave
    rw [hsave] at h
    dsimp only at h
    rw [alone_atomic_bind] at h
    have hids' : (w.withRow req.inputId stored).IdsMatch := hids
    rcases @installOutputSection_outcome env _ hids' req.inputId (w.db.outputs.lastId + 1)
      stored hinput with ⟨hres, e, he, hs⟩ | ⟨hres, input, output, w₂, hs, hinstalls⟩
    · rw [hd] at hs
      rw [hs] at h
      obtain ⟨rfl, _, rfl⟩ := alone_ret_eq_some.mp h
      exact .rowLeft stored he hstores hres
    · rw [hd] at hs
      rw [hs] at h
      obtain ⟨rfl, _, rfl⟩ := alone_ret_eq_some.mp h
      exact .created stored input output rfl hstores hres hinstalls
  · have hnone : ∀ stored', ¬ Stores env w req stored' := fun stored' hstores =>
      hsaves ⟨hstores.query, hstores.inputRow⟩
    obtain ⟨e, he⟩ := saveOutputToDb_refused hsaves
    rw [he] at h
    obtain ⟨rfl, _, rfl⟩ := alone_ret_eq_some.mp h
    exact .refused (by simp [databaseError, Response.internalServerError]) hnone

theorem createOutput_outcome (hids : w.IdsMatch)
    (h : (createOutput env req).alone false w = some (response, held, w')) :
    CreationOutcome env w req response w' := by
  unfold createOutput at h
  split at h
  · rename_i e he
    obtain ⟨rfl, _, rfl⟩ := alone_ret_eq_some.mp h
    refine .refused (by simp [Response.badRequest]) fun stored hstores => ?_
    exact absurd (he.symm.trans hstores.valid) (by simp)
  rename_i hvalid
  rw [alone_acquire] at h
  obtain ⟨r, _, w₁, hguarded, hret⟩ := alone_bind_eq_some.mp h
  obtain ⟨rfl, _, rfl⟩ := alone_ret_eq_some.mp hret
  unfold createOutputGuarded at hguarded
  rw [alone_atomic_bind] at hguarded
  split at hguarded
  · rename_i hinput
    exact createOutputHeld_outcome hids hvalid (AList.lookup_isSome.mp hinput) hguarded
  · rename_i hinput
    obtain ⟨rfl, _, rfl⟩ := alone_ret_eq_some.mp hguarded
    refine .refused (by simp [inputNotFound, Response.notFound]) fun stored hstores => ?_
    exact hinput (AList.lookup_isSome.mpr hstores.input)

/-- The creation that `pairedWorld` comes from. -/
theorem pairedWorld_created :
    ∃ response held, (createOutput localEnv (udpOutputRequest "127.0.0.1")).alone false
      runningWorld = some (response, held, pairedWorld) ∧ response.status = 201 :=
  alone_answers (by decide +kernel)

end Outcomes

/-- A creation that fails leaves the table of outputs and the streams as they were, unless
the row was inserted and the destination then does not resolve. -/
theorem createOutput_atomic_iff {env : Env} {req : CreateOutputRequest} {w w' : World}
    {held : Bool} {response : Response} (hw : Reachable w)
    (h : (createOutput env req).alone false w = some (response, held, w')) :
    (400 ≤ response.status → w'.db.outputs = w.db.outputs ∧ w'.streams = w.streams) ↔
      ∀ stored, Stores env w req stored → stored.Resolves env := by
  cases createOutput_outcome hw.idsMatch h with
  | refused _ hnone =>
    exact iff_of_true (fun _ => ⟨rfl, rfl⟩) fun stored hstores => absurd hstores (hnone stored)
  | rowLeft stored hstatus hstores hres =>
    refine iff_of_false (fun hkept => ?_) fun hcondition => hres (hcondition stored hstores)
    have hid := congrArg Table.lastId (hkept hstatus).1
    have : w.db.outputs.lastId + 1 = w.db.outputs.lastId := hid
    omega
  | created stored input output hstatus hstores hres =>
    refine iff_of_true (fun herror => ?_) fun stored' hstores' => ?_
    · omega
    · rw [hstores.unique hstores']
      exact hres

/-- A request that is refused as a duplicate. -/
theorem duplicate_changes_nothing :
    (pairedWorld.after (createOutput localEnv (udpOutputRequest "127.0.0.1")).ignore).db.outputs =
        pairedWorld.db.outputs ∧
      (pairedWorld.after (createOutput localEnv (udpOutputRequest "127.0.0.1")).ignore).streams =
        pairedWorld.streams := by
  obtain ⟨response, held, hr, hstatus⟩ :=
    @alone_answers (createOutput localEnv (udpOutputRequest "127.0.0.1")) pairedWorld 409
      (by decide +kernel)
  exact (createOutput_atomic_iff rests_pairedWorld.reachable hr).mpr
    (fun stored _ => resolves_localEnv stored) (by omega)

/-- The name of the host does not resolve, and the row stays. -/
theorem failed_creation_leaves_row :
    ¬ ∀ env req w w' held response, Reachable w →
      (createOutput env req).alone false w = some (response, held, w') →
      400 ≤ response.status → w'.db.outputs = w.db.outputs ∧ w'.streams = w.streams := by
  intro h
  obtain ⟨response, held, hr, hstatus⟩ :=
    @alone_answers (createOutput offlineEnv (udpOutputRequest "localhost")) runningWorld 400
      (by decide +kernel)
  have hsame := (h _ _ _ _ _ _ rests_runningWorld.reachable hr (by omega)).1
  exact absurd (congrArg (fun t => t.rows.length) hsame) (by decide +kernel)

end StreamGateway
